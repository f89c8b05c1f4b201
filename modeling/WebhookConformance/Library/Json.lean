import WebhookConformance.Library.JsonText
import Mathlib.Algebra.Order.BigOperators.Group.List
import Mathlib.Algebra.Order.Group.Nat
import Mathlib.Data.List.DropRight
import Mathlib.Data.List.Sort

/-! JSON values as trees: measures, key order, a writer in the compact and in the indented style,
and a reader that gives every written value back. -/

inductive Json where
  | null
  | bool (b : Bool)
  | number (n : Int)
  /-- A number literal with a fraction or an exponent, kept as it was read. -/
  | float (literal : List Char)
  | text (s : String)
  | array (items : List Json)
  | object (members : List (String × Json))
  deriving Repr

namespace Json

/-- What a recursion over values makes of each constructor. -/
structure Algebra (α : Type) where
  null : α
  bool : Bool → α
  number : Int → α
  float : List Char → α
  text : String → α
  array : List α → α
  object : List (String × α) → α

section Fold

variable {α : Type} (alg : Algebra α)

mutual

def fold : Json → α
  | .null => alg.null
  | .bool b => alg.bool b
  | .number n => alg.number n
  | .float literal => alg.float literal
  | .text s => alg.text s
  | .array items => alg.array (foldItems items)
  | .object members => alg.object (foldMembers members)

def foldItems : List Json → List α
  | [] => []
  | v :: vs => fold v :: foldItems vs

def foldMembers : List (String × Json) → List (String × α)
  | [] => []
  | (key, v) :: ms => (key, fold v) :: foldMembers ms

end

theorem foldItems_eq (vs : List Json) : foldItems alg vs = vs.map (fold alg) := by
  induction vs with
  | nil => rfl
  | cons v vs ih => rw [foldItems, ih, List.map_cons]

theorem foldMembers_eq (ms : List (String × Json)) :
    foldMembers alg ms = ms.map fun m => (m.1, fold alg m.2) := by
  induction ms with
  | nil => rfl
  | cons m ms ih => rw [foldMembers, ih, List.map_cons]

theorem fold_array (vs : List Json) : fold alg (.array vs) = alg.array (vs.map (fold alg)) := by
  rw [fold, foldItems_eq]

theorem fold_object (ms : List (String × Json)) :
    fold alg (.object ms) = alg.object (ms.map fun m => (m.1, fold alg m.2)) := by
  rw [fold, foldMembers_eq]

end Fold

/-- Induction with a hypothesis for each element and each member. -/
@[elab_as_elim]
theorem induct {P : Json → Prop} (null : P .null) (bool : ∀ b, P (.bool b))
    (number : ∀ n, P (.number n)) (float : ∀ literal, P (.float literal))
    (text : ∀ s, P (.text s)) (array : ∀ items, (∀ v ∈ items, P v) → P (.array items))
    (object : ∀ members : List (String × Json), (∀ m ∈ members, P m.2) → P (.object members))
    (v : Json) : P v := by
  refine @Json.rec P (fun vs => ∀ v ∈ vs, P v) (fun ms => ∀ m ∈ ms, P m.2) (fun m => P m.2)
    null bool number float text array object ?_ ?_ ?_ ?_ ?_ v
  · intro v hv
    cases hv
  · intro head tail hhead htail
    exact List.forall_mem_cons.mpr ⟨hhead, htail⟩
  · intro m hm
    cases hm
  · intro head tail hhead htail
    exact List.forall_mem_cons.mpr ⟨hhead, htail⟩
  · intro key v hv
    exact hv

section Equality

mutual

def beq : Json → Json → Bool
  | .null, .null => true
  | .bool a, .bool b => a == b
  | .number a, .number b => a == b
  | .float a, .float b => a == b
  | .text a, .text b => a == b
  | .array a, .array b => beqItems a b
  | .object a, .object b => beqMembers a b
  | _, _ => false

def beqItems : List Json → List Json → Bool
  | [], [] => true
  | v :: vs, w :: ws => beq v w && beqItems vs ws
  | _, _ => false

def beqMembers : List (String × Json) → List (String × Json) → Bool
  | [], [] => true
  | (k, v) :: ms, (l, w) :: ns => k == l && beq v w && beqMembers ms ns
  | _, _ => false

end

theorem beqItems_iff {vs ws : List Json} (h : ∀ v ∈ vs, ∀ w, beq v w = true ↔ v = w) :
    beqItems vs ws = true ↔ vs = ws := by
  induction vs generalizing ws with
  | nil => cases ws <;> simp [beqItems]
  | cons v vs ih =>
    obtain ⟨hv, hvs⟩ := List.forall_mem_cons.mp h
    cases ws with
    | nil => simp [beqItems]
    | cons w ws => simp [beqItems, hv w, ih hvs]

theorem beqMembers_iff {ms ns : List (String × Json)}
    (h : ∀ m ∈ ms, ∀ w, beq m.2 w = true ↔ m.2 = w) : beqMembers ms ns = true ↔ ms = ns := by
  induction ms generalizing ns with
  | nil => cases ns <;> simp [beqMembers]
  | cons m ms ih =>
    obtain ⟨hm, hms⟩ := List.forall_mem_cons.mp h
    cases ns with
    | nil => simp [beqMembers]
    | cons n ns => simp [beqMembers, hm n.2, ih hms, Prod.ext_iff]

theorem beq_iff (v w : Json) : beq v w = true ↔ v = w := by
  induction v using induct generalizing w with
  | null => cases w <;> simp [beq]
  | bool b => cases w <;> simp [beq]
  | number n => cases w <;> simp [beq]
  | float literal => cases w <;> simp [beq]
  | text s => cases w <;> simp [beq]
  | array items ih => cases w <;> simp [beq, beqItems_iff ih]
  | object members ih => cases w <;> simp [beq, beqMembers_iff ih]

instance : DecidableEq Json := fun v w => decidable_of_iff _ (beq_iff v w)

end Equality

section Measures

/-- The number of values in a tree, itself included. -/
def nodes : Json → Nat :=
  fold
    { null := 1
      bool := fun _ => 1
      number := fun _ => 1
      float := fun _ => 1
      text := fun _ => 1
      array := fun items => items.sum + 1
      object := fun members => (members.map Prod.snd).sum + 1 }

/-- The nesting depth; a leaf has depth one. -/
def depth : Json → Nat :=
  fold
    { null := 1
      bool := fun _ => 1
      number := fun _ => 1
      float := fun _ => 1
      text := fun _ => 1
      array := fun items => items.foldr max 0 + 1
      object := fun members => (members.map Prod.snd).foldr max 0 + 1 }

/-- No number of the tree has a fraction or an exponent. -/
def integral : Json → Bool :=
  fold
    { null := true
      bool := fun _ => true
      number := fun _ => true
      float := fun _ => false
      text := fun _ => true
      array := fun items => items.all id
      object := fun members => members.all Prod.snd }

/-- No object of the tree has a key twice. -/
def uniqueKeys : Json → Bool :=
  fold
    { null := true
      bool := fun _ => true
      number := fun _ => true
      float := fun _ => true
      text := fun _ => true
      array := fun items => items.all id
      object := fun members => decide (members.map Prod.fst).Nodup && members.all Prod.snd }

variable {v : Json} {items : List Json} {members : List (String × Json)}

theorem nodes_array : (Json.array items).nodes = (items.map nodes).sum + 1 := fold_array _ _

theorem nodes_object : (Json.object members).nodes = (members.map fun m => m.2.nodes).sum + 1 := by
  rw [nodes, fold_object]
  simp [Function.comp_def]

theorem depth_array : (Json.array items).depth = (items.map depth).foldr max 0 + 1 :=
  fold_array _ _

theorem depth_object :
    (Json.object members).depth = (members.map fun m => m.2.depth).foldr max 0 + 1 := by
  rw [depth, fold_object]
  simp [Function.comp_def]

theorem integral_array : (Json.array items).integral = true ↔ ∀ v ∈ items, v.integral = true := by
  rw [integral, fold_array]
  simp

theorem integral_object :
    (Json.object members).integral = true ↔ ∀ m ∈ members, m.2.integral = true := by
  rw [integral, fold_object]
  simp

theorem uniqueKeys_array :
    (Json.array items).uniqueKeys = true ↔ ∀ v ∈ items, v.uniqueKeys = true := by
  rw [uniqueKeys, fold_array]
  simp

theorem uniqueKeys_object : (Json.object members).uniqueKeys = true ↔
    (members.map Prod.fst).Nodup ∧ ∀ m ∈ members, m.2.uniqueKeys = true := by
  rw [uniqueKeys, fold_object]
  simp [Function.comp_def]

theorem le_foldr_max {n : Nat} {ns : List Nat} (h : n ∈ ns) : n ≤ ns.foldr max 0 := by
  induction ns with
  | nil => cases h
  | cons m ns ih =>
    rw [List.foldr_cons]
    rcases List.mem_cons.mp h with rfl | h
    · exact le_max_left _ _
    · exact (ih h).trans (le_max_right _ _)

theorem foldr_max_le {bound : Nat} {ns : List Nat} :
    ns.foldr max 0 ≤ bound ↔ ∀ n ∈ ns, n ≤ bound := by
  induction ns with
  | nil => simp
  | cons m ns ih => simp [ih]

theorem foldr_max_lt {bound : Nat} {ns : List Nat} (h : ∀ n ∈ ns, n < bound) (hpos : 0 < bound) :
    ns.foldr max 0 < bound := by
  have := foldr_max_le.mpr fun n hn => Nat.le_sub_one_of_lt (h n hn)
  omega

theorem depth_item (h : v ∈ items) : v.depth + 1 ≤ (Json.array items).depth := by
  rw [depth_array]
  exact Nat.succ_le_succ (le_foldr_max (List.mem_map_of_mem h))

theorem depth_member {m : String × Json} (h : m ∈ members) :
    m.2.depth + 1 ≤ (Json.object members).depth := by
  rw [depth_object]
  exact Nat.succ_le_succ (le_foldr_max (List.mem_map.mpr ⟨m, h, rfl⟩))

end Measures

section Keys

/-- Every object with its members in the order of their keys. -/
def sortKeys (le : String → String → Prop) [DecidableRel le] : Json → Json :=
  fold
    { null := .null
      bool := .bool
      number := .number
      float := .float
      text := .text
      array := .array
      object := fun members => .object (members.insertionSort fun m n => le m.1 n.1) }

theorem sortKeys_array (le : String → String → Prop) [DecidableRel le] (items : List Json) :
    (Json.array items).sortKeys le = .array (items.map (sortKeys le)) := fold_array _ _

theorem sortKeys_object (le : String → String → Prop) [DecidableRel le]
    (members : List (String × Json)) :
    (Json.object members).sortKeys le =
      .object ((members.map fun m => (m.1, m.2.sortKeys le)).insertionSort fun m n => le m.1 n.1) :=
  fold_object _ _

/-- The order of the keys leaves the kinds of the numbers as they are. -/
theorem sortKeys_integral (le : String → String → Prop) [DecidableRel le] (v : Json) :
    (v.sortKeys le).integral = v.integral := by
  induction v using induct with
  | array items ih =>
    rw [Bool.eq_iff_iff, sortKeys_array, integral_array, integral_array, List.forall_mem_map]
    exact forall₂_congr fun v hv => by rw [ih v hv]
  | object members ih =>
    rw [Bool.eq_iff_iff, sortKeys_object, integral_object, integral_object]
    simp only [List.mem_insertionSort, List.forall_mem_map]
    exact forall₂_congr fun m hm => by rw [ih m hm]
  | _ => rfl

theorem sortKeys_nodes (le : String → String → Prop) [DecidableRel le] (v : Json) :
    (v.sortKeys le).nodes = v.nodes := by
  induction v using induct with
  | array items ih =>
    rw [sortKeys_array, nodes_array, nodes_array, List.map_map]
    exact congrArg (fun counts => counts.sum + 1) (List.map_congr_left ih)
  | object members ih =>
    rw [sortKeys_object, nodes_object, nodes_object,
      ((List.perm_insertionSort _ _).map _).sum_eq, List.map_map]
    exact congrArg (fun counts => counts.sum + 1) (List.map_congr_left ih)
  | _ => rfl

/-- Sorted keys stay as they are. -/
theorem sortKeys_idem (le : String → String → Prop) [DecidableRel le]
    (htotal : ∀ a b, le a b ∨ le b a) (htrans : ∀ a b c, le a b → le b c → le a c) (v : Json) :
    (v.sortKeys le).sortKeys le = v.sortKeys le := by
  induction v using induct with
  | array items ih =>
    rw [sortKeys_array, sortKeys_array, List.map_map]
    exact congrArg Json.array (List.map_congr_left ih)
  | object members ih =>
    have hsame : ∀ m ∈ (members.map fun m => (m.1, m.2.sortKeys le)).insertionSort
        (fun m n => le m.1 n.1), (m.1, m.2.sortKeys le) = m := by
      simp only [List.mem_insertionSort, List.forall_mem_map]
      exact fun m hm => congrArg (Prod.mk m.1) (ih m hm)
    have : Std.Total (fun m n : String × Json => le m.1 n.1) := ⟨fun m n => htotal m.1 n.1⟩
    have : IsTrans (String × Json) (fun m n => le m.1 n.1) :=
      ⟨fun a b c => htrans a.1 b.1 c.1⟩
    rw [sortKeys_object, sortKeys_object, List.map_congr_left hsame, List.map_id']
    exact congrArg Json.object (List.pairwise_insertionSort _ _).insertionSort_eq
  | _ => rfl

/-- Booleans as the numbers 0 and 1. -/
def numeric : Json → Json :=
  fold {
    null := .null
    bool := fun b => .number (if b then 1 else 0)
    number := .number
    float := .float
    text := .text
    array := .array
    object := .object }

/-- Equality that counts booleans as numbers and leaves the order of keys aside. -/
def looseEq (v w : Json) : Bool :=
  v.numeric.sortKeys (· ≤ ·) = w.numeric.sortKeys (· ≤ ·)

theorem looseEq_iff {v w : Json} :
    v.looseEq w = true ↔ v.numeric.sortKeys (· ≤ ·) = w.numeric.sortKeys (· ≤ ·) := by
  simp [looseEq]

end Keys

section Writer

/-- How a text is laid out: which characters are escaped, and the indentation of nested values
when there is one. -/
structure Style where
  ascii : Bool
  indent : Option Nat
  deriving DecidableEq, Repr

def Style.quote (style : Style) (s : String) : List Char :=
  if style.ascii then JsonText.quote s.toList else JsonText.quotePlain s.toList

def Style.newline (style : Style) (level : Nat) : List Char :=
  match style.indent with
  | none => []
  | some width => '\n' :: List.replicate (width * level) ' '

def Style.colon (style : Style) : List Char :=
  match style.indent with
  | none => [':']
  | some _ => [':', ' ']

/-- The parts of an array or an object between its brackets, separated by commas. -/
def Style.wrap (style : Style) (opening closing : Char) (level : Nat) :
    List (List Char) → List Char
  | [] => [opening, closing]
  | part :: parts =>
    opening :: (style.newline (level + 1) ++ part ++
      (parts.flatMap fun p => ',' :: (style.newline (level + 1) ++ p)) ++
      style.newline level ++ [closing])

def writeInt : Int → List Char
  | .ofNat n => Nat.toDigits 10 n
  | .negSucc n => '-' :: Nat.toDigits 10 (n + 1)

def Style.algebra (style : Style) : Algebra (Nat → List Char) where
  null := fun _ => ['n', 'u', 'l', 'l']
  bool := fun b _ => if b then ['t', 'r', 'u', 'e'] else ['f', 'a', 'l', 's', 'e']
  number := fun n _ => writeInt n
  float := fun literal _ => literal
  text := fun s _ => style.quote s
  array := fun items level => style.wrap '[' ']' level (items.map (· (level + 1)))
  object := fun members level =>
    style.wrap '{' '}' level (members.map fun m => style.quote m.1 ++ style.colon ++ m.2 (level + 1))

/-- The text of a value nested at a level. -/
def write (style : Style) (v : Json) (level : Nat) : List Char := fold style.algebra v level

theorem write_array (style : Style) (items : List Json) (level : Nat) :
    (Json.array items).write style level =
      style.wrap '[' ']' level (items.map fun v => v.write style (level + 1)) := by
  rw [write, fold_array]
  exact congrArg (style.wrap '[' ']' level) List.map_map

theorem write_object (style : Style) (members : List (String × Json)) (level : Nat) :
    (Json.object members).write style level = style.wrap '{' '}' level
      (members.map fun m => style.quote m.1 ++ style.colon ++ m.2.write style (level + 1)) := by
  rw [write, fold_object]
  exact congrArg (style.wrap '{' '}' level) List.map_map

end Writer

section Reader

def isSpace (c : Char) : Bool := c = ' ' || c = '\t' || c = '\n' || c = '\r'

def skipSpace (cs : List Char) : List Char := cs.dropWhile isSpace

/-- Digits without a leading zero. -/
def readNatural : List Char → Option (Nat × List Char)
  | '0' :: rest => some (0, rest)
  | cs => JsonText.readNumber cs

def readInt : List Char → Option (Int × List Char)
  | '-' :: rest => (readNatural rest).map fun p => (-(p.1 : Int), p.2)
  | cs => (readNatural cs).map fun p => ((p.1 : Int), p.2)

/-- What is left after a fraction, if there is one. -/
def dropFraction : List Char → List Char
  | '.' :: d :: rest => if d.isDigit then rest.dropWhile Char.isDigit else '.' :: d :: rest
  | cs => cs

/-- What is left after an exponent, if there is one. -/
def dropExponent : List Char → List Char
  | [] => []
  | e :: rest =>
    let digits := match rest with
      | '+' :: tail => tail
      | '-' :: tail => tail
      | tail => tail
    match digits with
    | d :: tail =>
      if (e = 'e' || e = 'E') && d.isDigit then tail.dropWhile Char.isDigit else e :: rest
    | [] => e :: rest

def readNumeral (cs : List Char) : Option (Json × List Char) :=
  match readInt cs with
  | none => none
  | some (n, rest) =>
    let tail := dropExponent (dropFraction rest)
    if tail = rest then some (.number n, rest)
    else some (.float (cs.take (cs.length - tail.length)), tail)

/-- The parts of a nonempty array or object, up to and with the closing bracket. -/
def readParts {α : Type} (read : List Char → Option (α × List Char)) (closing : Char) :
    Nat → List Char → Option (List α × List Char)
  | 0, _ => none
  | fuel + 1, cs =>
    match read (skipSpace cs) with
    | none => none
    | some (part, rest) =>
      match skipSpace rest with
      | [] => none
      | c :: rest =>
        if c = closing then some ([part], rest)
        else if c = ',' then (readParts read closing fuel rest).map fun p => (part :: p.1, p.2)
        else none

def readWrapped {α : Type} (read : List Char → Option (α × List Char)) (closing : Char)
    (cs : List Char) : Option (List α × List Char) :=
  match skipSpace cs with
  | [] => none
  | c :: rest => if c = closing then some ([], rest) else readParts read closing cs.length (c :: rest)

def readMember {α : Type} (read : List Char → Option (α × List Char)) (cs : List Char) :
    Option ((String × α) × List Char) :=
  match JsonText.readQuoted cs with
  | none => none
  | some (key, rest) =>
    match skipSpace rest with
    | ':' :: rest => (read (skipSpace rest)).map fun p => ((String.ofList key, p.1), p.2)
    | _ => none

/-- A value at the start of a text, and what follows it; `fuel` bounds its depth. -/
def readValue : Nat → List Char → Option (Json × List Char)
  | 0, _ => none
  | fuel + 1, cs =>
    match cs with
    | '"' :: _ => (JsonText.readQuoted cs).map fun p => (.text (String.ofList p.1), p.2)
    | '[' :: rest => (readWrapped (readValue fuel) ']' rest).map fun p => (.array p.1, p.2)
    | '{' :: rest =>
      (readWrapped (readMember (readValue fuel)) '}' rest).map fun p => (.object p.1, p.2)
    | 'n' :: 'u' :: 'l' :: 'l' :: rest => some (.null, rest)
    | 't' :: 'r' :: 'u' :: 'e' :: rest => some (.bool true, rest)
    | 'f' :: 'a' :: 'l' :: 's' :: 'e' :: rest => some (.bool false, rest)
    | _ => readNumeral cs

/-- A whole text: one value with blanks around it. -/
def read (cs : List Char) : Option Json :=
  match readValue (cs.length + 1) (skipSpace cs) with
  | none => none
  | some (v, rest) => if skipSpace rest = [] then some v else none

end Reader

section RoundTrip

/-- What may follow a number: nothing that would continue it. -/
def Stops (rest : List Char) : Prop :=
  ∀ c ∈ rest.head?, c.isDigit = false ∧ c ≠ '.' ∧ c ≠ 'e' ∧ c ≠ 'E'

/-- A text whose first character begins a value. -/
def Starts (cs : List Char) : Prop :=
  ∃ c tail, cs = c :: tail ∧ isSpace c = false ∧ c ≠ ']' ∧ c ≠ '}'

def Blank (gap : List Char) : Prop := ∀ c ∈ gap, isSpace c = true

theorem stops_cons {c : Char} (rest : List Char)
    (h : c.isDigit = false ∧ c ≠ '.' ∧ c ≠ 'e' ∧ c ≠ 'E') : Stops (c :: rest) := by
  rintro d ⟨⟩
  exact h

theorem Starts.append {cs : List Char} (h : Starts cs) (rest : List Char) : Starts (cs ++ rest) := by
  obtain ⟨c, tail, rfl, hc⟩ := h
  exact ⟨c, tail ++ rest, rfl, hc⟩

theorem Starts.skipSpace {cs : List Char} (h : Starts cs) : skipSpace cs = cs := by
  obtain ⟨c, tail, rfl, hc, -⟩ := h
  exact List.dropWhile_cons_of_neg (by simp [hc])

theorem Blank.skipSpace {gap : List Char} (h : Blank gap) (cs : List Char) :
    skipSpace (gap ++ cs) = Json.skipSpace cs :=
  List.dropWhile_append_of_pos h

theorem Blank.stops {gap rest : List Char} (h : Blank gap) (hrest : Stops rest) :
    Stops (gap ++ rest) := by
  cases gap with
  | nil => exact hrest
  | cons c gap =>
    apply stops_cons
    have hc : isSpace c = true := h c List.mem_cons_self
    simp only [isSpace, Bool.or_eq_true, decide_eq_true_eq] at hc
    rcases hc with ((rfl | rfl) | rfl) | rfl
    all_goals decide

theorem newline_blank (style : Style) (level : Nat) : Blank (style.newline level) := by
  intro c hc
  unfold Style.newline at hc
  split at hc
  · cases hc
  · rcases List.mem_cons.mp hc with rfl | hc
    · rfl
    · rw [List.eq_of_mem_replicate hc]
      rfl

section Numbers

theorem toDigits_head {n : Nat} (h : 0 < n) :
    ∃ c tail, Nat.toDigits 10 n = c :: tail ∧ c ≠ '0' := by
  have hdigit : ∀ k < 10, 0 < k → k.digitChar ≠ '0' := by decide
  induction n using Nat.strong_induction_on with
  | _ n ih =>
    by_cases hn : n < 10
    · exact ⟨n.digitChar, [], Nat.toDigits_of_lt_base hn, hdigit n hn h⟩
    · obtain ⟨c, tail, hdigits, hc⟩ := ih (n / 10) (by omega) (by omega)
      refine ⟨c, tail ++ [(n % 10).digitChar], ?_, hc⟩
      rw [Nat.toDigits_of_base_le (by omega) (by omega), hdigits, List.cons_append]

theorem readNatural_toDigits (n : Nat) {rest : List Char} (h : Stops rest) :
    readNatural (Nat.toDigits 10 n ++ rest) = some (n, rest) := by
  rcases Nat.eq_zero_or_pos n with rfl | hn
  · rfl
  · obtain ⟨c, tail, hdigits, hc⟩ := toDigits_head hn
    have hread := JsonText.readNumber_toDigits n fun c hc => (h c hc).1
    rw [hdigits, List.cons_append] at hread ⊢
    rw [← hread]
    unfold readNatural
    split
    · rename_i heq
      cases heq
      exact absurd rfl hc
    · rfl

theorem readInt_writeInt (n : Int) {rest : List Char} (h : Stops rest) :
    readInt (writeInt n ++ rest) = some (n, rest) := by
  cases n with
  | negSucc n =>
    simp only [writeInt, List.cons_append, readInt, readNatural_toDigits _ h, Option.map_some,
      Option.some.injEq, Prod.mk.injEq, and_true]
    rfl
  | ofNat n =>
    have hread := readNatural_toDigits n h
    have hsign : ∀ tail, Nat.toDigits 10 n ++ rest ≠ '-' :: tail := by
      intro tail heq
      have hmem : '-' ∈ Nat.toDigits 10 n := by
        cases hdigits : Nat.toDigits 10 n with
        | nil => exact absurd hdigits Nat.toDigits_ne_nil
        | cons c cs =>
          rw [hdigits, List.cons_append, List.cons.injEq] at heq
          rw [heq.1]
          exact List.mem_cons_self
      exact absurd (Nat.isDigit_of_mem_toDigits (by omega) (by omega) hmem) (by decide)
    simp only [writeInt]
    unfold readInt
    split
    · rename_i heq
      exact absurd heq (hsign _)
    · rw [hread]
      rfl

theorem dropFraction_stops {rest : List Char} (h : Stops rest) : dropFraction rest = rest := by
  unfold dropFraction
  split
  · exact absurd rfl (h '.' rfl).2.1
  · rfl

theorem dropExponent_stops {rest : List Char} (h : Stops rest) : dropExponent rest = rest := by
  cases rest with
  | nil => rfl
  | cons e rest =>
    obtain ⟨-, -, he, hE⟩ := h e rfl
    simp only [dropExponent, he, hE]
    split <;> simp

theorem readNumeral_writeInt (n : Int) {rest : List Char} (h : Stops rest) :
    readNumeral (writeInt n ++ rest) = some (.number n, rest) := by
  simp only [readNumeral, readInt_writeInt n h, dropFraction_stops h, dropExponent_stops h, if_true]

end Numbers

section Parts

variable {α : Type} {read : List Char → Option (α × List Char)} {text : α → List Char}
  {closing : Char} {gap last rest : List Char}

/-- The reader gives back each part's value from its text. -/
structure Reads (read : List Char → Option (α × List Char)) (text : α → List Char) (v : α) :
    Prop where
  starts : Starts (text v)
  gives : ∀ rest, Stops rest → read (text v ++ rest) = some (v, rest)

theorem readParts_text (hgap : Blank gap) (hlast : Blank last)
    (hclosing : closing = ']' ∨ closing = '}') {v : α} {vs : List α}
    (hv : Reads read text v) (hvs : ∀ w ∈ vs, Reads read text w) {fuel : Nat}
    (hfuel : vs.length < fuel) :
    readParts read closing fuel (gap ++ (text v ++ ((vs.flatMap fun w => ',' :: (gap ++ text w)) ++
      (last ++ closing :: rest)))) = some (v :: vs, rest) := by
  have hclose : isSpace closing = false ∧ closing ≠ ',' ∧ closing.isDigit = false ∧
      closing ≠ '.' ∧ closing ≠ 'e' ∧ closing ≠ 'E' := by
    rcases hclosing with rfl | rfl <;> decide
  induction vs generalizing v fuel with
  | nil =>
    obtain ⟨k, rfl⟩ : ∃ k, fuel = k + 1 := ⟨fuel - 1, by simp at hfuel; omega⟩
    have hstops : Stops (last ++ closing :: rest) := hlast.stops (stops_cons rest hclose.2.2)
    have hskip : skipSpace (last ++ closing :: rest) = closing :: rest := by
      rw [hlast.skipSpace]
      exact List.dropWhile_cons_of_neg (by simp [hclose.1])
    simp only [List.flatMap_nil, List.nil_append, readParts, hgap.skipSpace,
      (hv.starts.append _).skipSpace, hv.gives _ hstops, hskip, if_true]
  | cons w vs ih =>
    obtain ⟨k, rfl⟩ : ∃ k, fuel = k + 1 := ⟨fuel - 1, by simp at hfuel; omega⟩
    obtain ⟨hw, hvs⟩ := List.forall_mem_cons.mp hvs
    simp only [List.length_cons, Nat.add_lt_add_iff_right] at hfuel
    have hnext := ih hw hvs hfuel
    have hcomma (tail : List Char) : Stops (',' :: tail) := stops_cons tail (by decide)
    have hskip (tail : List Char) : skipSpace (',' :: tail) = ',' :: tail :=
      List.dropWhile_cons_of_neg (by decide)
    simp only [List.flatMap_cons, List.cons_append, List.append_assoc, readParts, hgap.skipSpace,
      (hv.starts.append _).skipSpace, hv.gives _ (hcomma _), hskip,
      if_neg hclose.2.1.symm, if_true, hnext, Option.map_some]

theorem length_le_parts {vs : List α} :
    vs.length ≤ (vs.flatMap fun w => ',' :: (gap ++ text w)).length := by
  induction vs with
  | nil => simp
  | cons w vs ih =>
    simp only [List.flatMap_cons, List.length_append, List.length_cons]
    omega

theorem readWrapped_parts {cs tail : List Char} {c : Char} (hskip : skipSpace cs = c :: tail)
    (hne : c ≠ closing) : readWrapped read closing cs = readParts read closing cs.length cs := by
  have hagain : skipSpace (c :: tail) = skipSpace cs := by
    rw [← hskip]
    exact List.dropWhile_idempotent _ _
  simp only [readWrapped, hskip, if_neg hne]
  cases cs.length with
  | zero => rfl
  | succ fuel => rw [readParts, readParts, hagain]

theorem readWrapped_wrap (style : Style) (opening : Char) (level : Nat) (rest : List Char)
    (hclosing : closing = ']' ∨ closing = '}') {vs : List α} (hvs : ∀ v ∈ vs, Reads read text v) :
    ∃ body, style.wrap opening closing level (vs.map text) = opening :: body ∧
      readWrapped read closing (body ++ rest) = some (vs, rest) := by
  cases vs with
  | nil =>
    refine ⟨[closing], rfl, ?_⟩
    have hskip : skipSpace (closing :: rest) = closing :: rest :=
      List.dropWhile_cons_of_neg (by rcases hclosing with rfl | rfl <;> decide)
    simp only [List.singleton_append, readWrapped, hskip, if_true]
  | cons v vs =>
    obtain ⟨hv, hvs⟩ := List.forall_mem_cons.mp hvs
    refine ⟨_, rfl, ?_⟩
    have hgap := newline_blank style (level + 1)
    have hlength := @length_le_parts α text (style.newline (level + 1)) vs
    obtain ⟨c, tail, htext, hspace, hbracket⟩ := hv.starts
    have hne : c ≠ closing := by
      rcases hclosing with rfl | rfl
      · exact hbracket.1
      · exact hbracket.2
    have hparts (fuel : Nat) (hfuel : vs.length < fuel) :=
      @readParts_text α read text closing _ _ rest hgap (newline_blank style level) hclosing v vs hv
        hvs fuel hfuel
    simp only [List.flatMap_map, List.append_assoc, List.singleton_append]
    rw [readWrapped_parts (c := c), hparts]
    · simp only [List.length_append, List.length_cons]
      omega
    · rw [hgap.skipSpace, htext, List.cons_append]
      exact List.dropWhile_cons_of_neg (by simp [hspace])
    · exact hne

end Parts

variable {v : Json} {style : Style} {level : Nat}

theorem quote_readable (style : Style) (s : String) (rest : List Char) :
    JsonText.readQuoted (style.quote s ++ rest) = some (s.toList, rest) := by
  unfold Style.quote
  split
  · exact JsonText.readQuoted_quote s.toList rest
  · exact JsonText.readQuoted_quotePlain s.toList rest

theorem quote_head (style : Style) (s : String) : ∃ tail, style.quote s = '"' :: tail := by
  unfold Style.quote
  split
  · exact ⟨_, rfl⟩
  · exact ⟨_, rfl⟩

theorem colon_skip (style : Style) {cs : List Char} (h : Starts cs) :
    ∃ tail, skipSpace (style.colon ++ cs) = ':' :: tail ∧ skipSpace tail = cs := by
  unfold Style.colon
  split
  · exact ⟨cs, List.dropWhile_cons_of_neg (by decide), h.skipSpace⟩
  · refine ⟨' ' :: cs, List.dropWhile_cons_of_neg (by decide), ?_⟩
    exact (List.dropWhile_cons_of_pos (by decide)).trans h.skipSpace

theorem writeInt_head (n : Int) :
    ∃ c tail, writeInt n = c :: tail ∧ (c.isDigit = true ∨ c = '-') := by
  cases n with
  | negSucc n => exact ⟨'-', _, rfl, Or.inr rfl⟩
  | ofNat n =>
    cases hdigits : Nat.toDigits 10 n with
    | nil => exact absurd hdigits Nat.toDigits_ne_nil
    | cons c cs =>
      refine ⟨c, cs, hdigits, Or.inl ?_⟩
      exact Nat.isDigit_of_mem_toDigits (b := 10) (n := n) (by omega) (by omega) (by simp [hdigits])

theorem ne_of_numeral {c d : Char} (hc : c.isDigit = true ∨ c = '-') (hd : d.isDigit = false)
    (hminus : d ≠ '-') : c ≠ d := by
  rintro rfl
  rcases hc with hc | hc
  · rw [hd] at hc
    cases hc
  · exact hminus hc

theorem wrap_starts {opening closing : Char} {parts : List (List Char)}
    (h : isSpace opening = false ∧ opening ≠ ']' ∧ opening ≠ '}') :
    Starts (style.wrap opening closing level parts) := by
  cases parts with
  | nil => exact ⟨opening, _, rfl, h⟩
  | cons part parts => exact ⟨opening, _, rfl, h⟩

theorem write_starts (hv : v.integral = true) : Starts (v.write style level) := by
  cases v with
  | null => exact ⟨'n', _, rfl, by decide⟩
  | bool b =>
    cases b
    · exact ⟨'f', _, rfl, by decide⟩
    · exact ⟨'t', _, rfl, by decide⟩
  | number n =>
    obtain ⟨c, tail, hwrite, hc⟩ := writeInt_head n
    have hne := fun d : Char => @ne_of_numeral c d hc
    refine ⟨c, tail, hwrite, ?_, hne _ (by decide) (by decide), hne _ (by decide) (by decide)⟩
    simp [isSpace, hne ' ' (by decide) (by decide), hne '\t' (by decide) (by decide),
      hne '\n' (by decide) (by decide), hne '\r' (by decide) (by decide)]
  | float literal => cases hv
  | text s =>
    obtain ⟨tail, hquote⟩ := quote_head style s
    exact ⟨'"', tail, hquote, by decide⟩
  | array items =>
    rw [write_array]
    exact wrap_starts (by decide)
  | object members =>
    rw [write_object]
    exact wrap_starts (by decide)

theorem readValue_numeral {fuel : Nat} {c : Char} {tail : List Char}
    (hc : c.isDigit = true ∨ c = '-') :
    readValue (fuel + 1) (c :: tail) = readNumeral (c :: tail) := by
  have hne := fun d : Char => @ne_of_numeral c d hc
  unfold readValue
  split
  case h_7 => rfl
  all_goals
    rename_i heq
    exact absurd (List.cons.inj heq).1 (hne _ (by decide) (by decide))

/-- A member is read back when its value is. -/
theorem readMember_text {read : List Char → Option (Json × List Char)} {m : String × Json}
    (h : Reads read (fun v => v.write style level) m.2) :
    Reads (readMember read) (fun m => style.quote m.1 ++ style.colon ++ m.2.write style level) m := by
  constructor
  case starts =>
    obtain ⟨tail, hquote⟩ := quote_head style m.1
    exact ⟨'"', _, by rw [hquote]; rfl, by decide⟩
  case gives =>
    intro rest hrest
    obtain ⟨tail, hcolon, hvalue⟩ := colon_skip style (h.starts.append rest)
    simp only [List.append_assoc, readMember, quote_readable, hcolon, hvalue, h.gives rest hrest,
      Option.map_some, String.ofList_toList]

/-- Reading undoes writing, at every nesting level and whatever follows the value. -/
theorem readValue_write (hv : v.integral = true) {fuel : Nat} (hfuel : v.depth ≤ fuel) :
    Reads (readValue fuel) (fun v => v.write style level) v := by
  refine ⟨write_starts hv, ?_⟩
  induction v using induct generalizing fuel level with
  | null =>
    obtain ⟨k, rfl⟩ : ∃ k, fuel = k + 1 := ⟨fuel - 1, by simp [depth, fold] at hfuel; omega⟩
    intro rest _
    rfl
  | bool b =>
    obtain ⟨k, rfl⟩ : ∃ k, fuel = k + 1 := ⟨fuel - 1, by simp [depth, fold] at hfuel; omega⟩
    intro rest _
    cases b <;> rfl
  | number n =>
    obtain ⟨k, rfl⟩ : ∃ k, fuel = k + 1 := ⟨fuel - 1, by simp [depth, fold] at hfuel; omega⟩
    intro rest hrest
    obtain ⟨c, tail, hwrite, hc⟩ := writeInt_head n
    have hread := readNumeral_writeInt n hrest
    change readValue (k + 1) (writeInt n ++ rest) = _
    rw [hwrite, List.cons_append] at hread ⊢
    rw [readValue_numeral hc, hread]
  | float literal => cases hv
  | text s =>
    obtain ⟨k, rfl⟩ : ∃ k, fuel = k + 1 := ⟨fuel - 1, by simp [depth, fold] at hfuel; omega⟩
    intro rest hrest
    obtain ⟨tail, hquote⟩ := quote_head style s
    have hread := quote_readable style s rest
    change readValue (k + 1) (style.quote s ++ rest) = _
    rw [hquote, List.cons_append] at hread ⊢
    simp only [readValue, hread, Option.map_some, String.ofList_toList]
  | array items ih =>
    rw [integral_array] at hv
    have hpos : (Json.array items).depth = _ := depth_array
    obtain ⟨k, rfl⟩ : ∃ k, fuel = k + 1 := ⟨fuel - 1, by omega⟩
    intro rest hrest
    have hitems : ∀ v ∈ items, Reads (readValue k) (fun v => v.write style (level + 1)) v := by
      intro v hmem
      have hdepth := depth_item hmem
      exact ⟨write_starts (hv v hmem), ih v hmem (hv v hmem) (by omega)⟩
    obtain ⟨body, hbody, hread⟩ := readWrapped_wrap style '[' level rest (Or.inl rfl) hitems
    simp only [write_array, hbody, List.cons_append, readValue, hread, Option.map_some]
  | object members ih =>
    rw [integral_object] at hv
    have hpos : (Json.object members).depth = _ := depth_object
    obtain ⟨k, rfl⟩ : ∃ k, fuel = k + 1 := ⟨fuel - 1, by omega⟩
    intro rest hrest
    have hmembers : ∀ m ∈ members, Reads (readMember (readValue k))
        (fun m => style.quote m.1 ++ style.colon ++ m.2.write style (level + 1)) m := by
      intro m hmem
      have hdepth := depth_member hmem
      exact readMember_text ⟨write_starts (hv m hmem), ih m hmem (hv m hmem) (by omega)⟩
    obtain ⟨body, hbody, hread⟩ := readWrapped_wrap style '{' level rest (Or.inr rfl) hmembers
    simp only [write_object, hbody, List.cons_append, readValue, hread, Option.map_some]

theorem length_lt_wrap {opening closing : Char} {parts : List (List Char)} {part : List Char}
    (h : part ∈ parts) : part.length < (style.wrap opening closing level parts).length := by
  cases parts with
  | nil => cases h
  | cons head tail =>
    simp only [Style.wrap, List.length_cons, List.length_append]
    rcases List.mem_cons.mp h with rfl | h
    · omega
    · have hsub : part.length ≤
          (tail.flatMap fun p => ',' :: (style.newline (level + 1) ++ p)).length := by
        rw [List.length_flatMap]
        refine le_trans ?_ (List.single_le_sum (by simp) _ (List.mem_map_of_mem h))
        simp only [List.length_cons, List.length_append]
        omega
      omega

theorem write_pos (hv : v.integral = true) : 0 < (v.write style level).length := by
  obtain ⟨c, tail, hwrite, -⟩ := @write_starts _ style level hv
  rw [hwrite]
  exact Nat.succ_pos _

/-- A written value is at least as long as it is deep. -/
theorem depth_le_length (hv : v.integral = true) : v.depth ≤ (v.write style level).length := by
  induction v using induct generalizing level with
  | array items ih =>
    rw [integral_array] at hv
    have hlt : ∀ n ∈ items.map depth, n < ((Json.array items).write style level).length := by
      intro n hn
      obtain ⟨v, hmem, rfl⟩ := List.mem_map.mp hn
      rw [write_array]
      exact lt_of_le_of_lt (ih v hmem (hv v hmem)) (length_lt_wrap (List.mem_map_of_mem hmem))
    rw [depth_array]
    exact foldr_max_lt hlt (write_pos (integral_array.mpr hv))
  | object members ih =>
    rw [integral_object] at hv
    have hlt : ∀ n ∈ members.map (fun m => m.2.depth),
        n < ((Json.object members).write style level).length := by
      intro n hn
      obtain ⟨m, hmem, rfl⟩ := List.mem_map.mp hn
      have hvalue := @ih m hmem (level + 1) (hv m hmem)
      rw [write_object]
      refine lt_of_le_of_lt ?_ (length_lt_wrap (List.mem_map_of_mem hmem))
      simp only [List.length_append]
      omega
    rw [depth_object]
    exact foldr_max_lt hlt (write_pos (integral_object.mpr hv))
  | _ => exact write_pos hv

/-- A whole written text, with blanks after it, is read back. -/
theorem read_write (hv : v.integral = true) {gap : List Char} (hgap : Blank gap) :
    read (v.write style level ++ gap) = some v := by
  have hstarts : Starts (v.write style level) := write_starts hv
  have hlength : v.depth ≤ (v.write style level).length := depth_le_length hv
  have hblank : skipSpace gap = [] := List.dropWhile_eq_nil_iff.mpr hgap
  have hstops : Stops (gap ++ []) := hgap.stops nofun
  rw [List.append_nil] at hstops
  have hvalue := (@readValue_write v style level hv ((v.write style level ++ gap).length + 1)
    (by rw [List.length_append]; omega)).gives gap hstops
  simp only [read, (hstarts.append gap).skipSpace, hvalue, hblank, if_true]

end RoundTrip

section Walk

def children : Json → List Json
  | .array items => items
  | .object members => members.map Prod.snd
  | _ => []

theorem nodes_children (v : Json) : v.nodes = (v.children.map nodes).sum + 1 := by
  cases v with
  | array items => exact nodes_array
  | object members =>
    rw [nodes_object, children, List.map_map]
    rfl
  | _ => rfl

theorem depth_children (v : Json) : v.depth = (v.children.map depth).foldr max 0 + 1 := by
  cases v with
  | array items => exact depth_array
  | object members =>
    rw [depth_object, children, List.map_map]
    rfl
  | _ => rfl

@[elab_as_elim]
theorem induct_children {P : Json → Prop} (step : ∀ v, (∀ w ∈ v.children, P w) → P v) (v : Json) :
    P v := by
  induction v using induct with
  | array items ih => exact step _ ih
  | object members ih =>
    apply step
    rw [children, List.forall_mem_map]
    exact ih
  | _ => exact step _ nofun

/-- A value at its depth inside a tree whose root has another depth. -/
inductive Within : Json → Nat → Json → Nat → Prop
  | root (v : Json) (d : Nat) : Within v d v d
  | child {v w x : Json} {d e : Nat} : w ∈ v.children → Within w (d + 1) x e → Within v d x e

theorem integral_children (v : Json) :
    v.integral = true ↔ (∀ literal, v ≠ .float literal) ∧ ∀ w ∈ v.children, w.integral = true := by
  cases v with
  | array items => simp [integral_array, children]
  | object members => rw [integral_object, children, List.forall_mem_map]; simp
  | _ => simp [integral, fold, children]

theorem forall_within {P : Json → Nat → Prop} {v : Json} {d : Nat} :
    (∀ w e, Within v d w e → P w e) ↔
      P v d ∧ ∀ c ∈ v.children, ∀ w e, Within c (d + 1) w e → P w e := by
  constructor
  · intro h
    exact ⟨h v d (.root v d), fun c hc w e hw => h w e (.child hc hw)⟩
  · rintro ⟨hroot, hbelow⟩ w e hw
    cases hw with
    | root => exact hroot
    | child hmem hw => exact hbelow _ hmem _ _ hw

/-- Depths inside a tree reach exactly as far as the tree is deep. -/
theorem within_le_iff {v : Json} {d limit : Nat} :
    (∀ w e, Within v d w e → e ≤ limit) ↔ v.depth + d ≤ limit + 1 := by
  induction v using induct_children generalizing d with
  | step v ih =>
    have hbelow : (∀ c ∈ v.children, ∀ w e, Within c (d + 1) w e → e ≤ limit) ↔
        ∀ n ∈ v.children.map depth, n + d ≤ limit := by
      rw [List.forall_mem_map]
      refine forall₂_congr fun c hc => (ih c hc).trans ?_
      omega
    rw [forall_within (P := fun _ e => e ≤ limit), hbelow, depth_children v]
    constructor
    · rintro ⟨hroot, hbound⟩
      have := foldr_max_le.mpr fun n hn => Nat.le_sub_of_add_le (hbound n hn)
      omega
    · intro h
      refine ⟨by omega, fun n hn => ?_⟩
      have := le_foldr_max hn
      omega

theorem integral_of_within {v : Json} {d : Nat}
    (h : ∀ w e, Within v d w e → ∀ literal, w ≠ .float literal) : v.integral = true := by
  induction v using induct_children generalizing d with
  | step v ih =>
    rw [forall_within (P := fun w _ => ∀ literal, w ≠ .float literal)] at h
    exact (integral_children v).mpr ⟨h.1, fun w hw => ih w hw (h.2 w hw)⟩

variable {ε : Type} (check : Json → Nat → Except ε Unit) (tooMany : ε)
  (arrange : List Json → List Json)

/-- The bounded loop over a stack of values with their depths: at most `budget` of them are
visited, and the children of each are pushed in the order that `arrange` gives. -/
def walk : Nat → List (Json × Nat) → Except ε Unit
  | _, [] => .ok ()
  | 0, _ :: _ => .error tooMany
  | budget + 1, (v, d) :: stack =>
    match check v d with
    | .error e => .error e
    | .ok () => walk budget ((arrange v.children).map (fun w => (w, d + 1)) ++ stack)

variable {check tooMany arrange}

/-- The loop ends well exactly on the trees that fit the budget and pass the check everywhere. -/
theorem walk_ok_iff (harrange : ∀ vs, (arrange vs).Perm vs) {budget : Nat}
    {stack : List (Json × Nat)} :
    walk check tooMany arrange budget stack = .ok () ↔
      (stack.map fun p => p.1.nodes).sum ≤ budget ∧
        ∀ p ∈ stack, ∀ w e, Within p.1 p.2 w e → check w e = .ok () := by
  induction budget generalizing stack with
  | zero =>
    cases stack with
    | nil => simp [walk]
    | cons p stack =>
      have hpos := nodes_children p.1
      simp only [walk, List.map_cons, List.sum_cons]
      constructor
      · rintro ⟨⟩
      · rintro ⟨hle, -⟩
        omega
  | succ budget ih =>
    cases stack with
    | nil => simp [walk]
    | cons p stack =>
      obtain ⟨v, d⟩ := p
      have hnodes : (((arrange v.children).map fun w => (w, d + 1)) ++ stack).map
          (fun p : Json × Nat => p.1.nodes) =
          (arrange v.children).map nodes ++ stack.map fun p => p.1.nodes := by
        rw [List.map_append, List.map_map]
        rfl
      have hsum : ((arrange v.children).map nodes).sum = (v.children.map nodes).sum :=
        ((harrange v.children).map nodes).sum_eq
      have hchildren : (∀ w e, Within v d w e → check w e = .ok ()) ↔ check v d = .ok () ∧
          ∀ p ∈ (arrange v.children).map (fun w => (w, d + 1)), ∀ w e, Within p.1 p.2 w e →
            check w e = .ok () := by
        simp only [List.forall_mem_map, (harrange v.children).mem_iff]
        exact forall_within
      have hroot := nodes_children v
      cases hcheck : check v d with
      | error e => simp [walk, hcheck, hchildren]
      | ok u =>
        simp only [walk, hcheck, ih, hnodes, List.sum_append, hsum, List.map_cons, List.sum_cons,
          List.forall_mem_append, List.forall_mem_cons, hchildren, true_and]
        constructor
        · rintro ⟨hle, hrest⟩
          exact ⟨by omega, hrest⟩
        · rintro ⟨hle, hrest⟩
          exact ⟨by omega, hrest⟩

end Walk

end Json
