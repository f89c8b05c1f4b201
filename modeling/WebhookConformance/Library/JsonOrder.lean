import WebhookConformance.Library.Json
import WebhookConformance.Library.Assoc

/-! Equality of JSON values that leaves the order of members aside, against the sorted form. -/
namespace Json

/-- Equal values: members are compared by key, whatever their order, and a boolean is no number. -/
def same : Json → Json → Prop :=
  fold
    { null := fun w => w = .null
      bool := fun b w => w = .bool b
      number := fun n w => w = .number n
      float := fun literal w => w = .float literal
      text := fun s w => w = .text s
      array := fun items w => ∃ ws, w = .array ws ∧ List.Forall₂ (fun p w => p w) items ws
      object := fun members w => ∃ ns, w = .object ns ∧ ns.length = members.length ∧
        ∀ m ∈ members, ∃ n, ns.lookup m.1 = some n ∧ m.2 n }

section Same

theorem same_array {items : List Json} {w : Json} :
    same (.array items) w ↔ ∃ ws, w = .array ws ∧ List.Forall₂ same items ws := by
  rw [same, fold_array]
  simp only [List.forall₂_map_left_iff]

theorem same_object {members : List (String × Json)} {w : Json} :
    same (.object members) w ↔ ∃ ns, w = .object ns ∧ ns.length = members.length ∧
      ∀ m ∈ members, ∃ n, ns.lookup m.1 = some n ∧ same m.2 n := by
  rw [same, fold_object]
  simp only [List.length_map, List.forall_mem_map]

end Same

section Sorting

variable (le : String → String → Prop) [DecidableRel le]

theorem sortKeys_depth (v : Json) : (v.sortKeys le).depth = v.depth := by
  induction v using induct with
  | array items ih =>
    rw [sortKeys_array, depth_array, depth_array, List.map_map]
    exact congrArg (fun depths => depths.foldr max 0 + 1) (List.map_congr_left ih)
  | object members ih =>
    have hsame : (members.map fun m => (m.1, m.2.sortKeys le)).map (fun m => m.2.depth) =
        members.map fun m => m.2.depth := by
      rw [List.map_map]
      exact List.map_congr_left ih
    rw [sortKeys_object, depth_object, depth_object, ← hsame]
    exact congrArg (· + 1) (((List.perm_insertionSort _ _).map _).foldr_eq 0)
  | _ => rfl

theorem sortKeys_uniqueKeys (v : Json) : (v.sortKeys le).uniqueKeys = v.uniqueKeys := by
  induction v using induct with
  | array items ih =>
    rw [Bool.eq_iff_iff, sortKeys_array, uniqueKeys_array, uniqueKeys_array, List.forall_mem_map]
    exact forall₂_congr fun v hv => by rw [ih v hv]
  | object members ih =>
    rw [Bool.eq_iff_iff, sortKeys_object, uniqueKeys_object, uniqueKeys_object]
    refine and_congr ?_ ?_
    · rw [((List.perm_insertionSort _ _).map Prod.fst).nodup_iff, List.map_map]
      rfl
    · simp only [List.mem_insertionSort, List.forall_mem_map]
      exact forall₂_congr fun m hm => by rw [ih m hm]
  | _ => rfl

variable {le}

/-- Entries with different keys have one sorted order. -/
theorem insertionSort_eq_of_perm {entries others : List (String × Json)}
    (htotal : ∀ a b, le a b ∨ le b a) (htrans : ∀ a b c, le a b → le b c → le a c)
    (hantisymm : ∀ a b, le a b → le b a → a = b) (hperm : entries.Perm others)
    (hkeys : (entries.map Prod.fst).Nodup) :
    entries.insertionSort (fun m n => le m.1 n.1) =
      others.insertionSort fun m n => le m.1 n.1 := by
  have : Std.Total (fun m n : String × Json => le m.1 n.1) := ⟨fun m n => htotal m.1 n.1⟩
  have : IsTrans (String × Json) (fun m n => le m.1 n.1) := ⟨fun a b c => htrans a.1 b.1 c.1⟩
  have hsorted := (List.perm_insertionSort (fun m n : String × Json => le m.1 n.1) entries).trans
    (hperm.trans (List.perm_insertionSort (fun m n : String × Json => le m.1 n.1) others).symm)
  refine hsorted.eq_of_pairwise (fun m n hm hn hmn hnm => ?_)
    (List.pairwise_insertionSort _ entries) (List.pairwise_insertionSort _ others)
  rw [List.mem_insertionSort] at hm hn
  exact List.inj_on_of_nodup_map hkeys hm (hperm.mem_iff.2 hn) (hantisymm _ _ hmn hnm)

theorem forall₂_same_iff {items ws : List Json}
    (h : ∀ v ∈ items, ∀ w ∈ ws, same v w ↔ v.sortKeys le = w.sortKeys le) :
    List.Forall₂ same items ws ↔ items.map (sortKeys le) = ws.map (sortKeys le) := by
  induction items generalizing ws with
  | nil =>
    cases ws <;> simp
  | cons v items ih =>
    cases ws with
    | nil => simp
    | cons w ws =>
      rw [List.forall₂_cons, List.map_cons, List.map_cons, List.cons.injEq, h v (by simp) w (by simp),
        ih fun v hv w hw => h v (List.mem_cons_of_mem _ hv) w (List.mem_cons_of_mem _ hw)]

/-- Two objects are equal exactly when they have the same sorted members. -/
theorem same_members_iff {members ns : List (String × Json)}
    (htotal : ∀ a b, le a b ∨ le b a) (htrans : ∀ a b c, le a b → le b c → le a c)
    (hantisymm : ∀ a b, le a b → le b a → a = b) (hmembers : (members.map Prod.fst).Nodup)
    (hns : (ns.map Prod.fst).Nodup)
    (h : ∀ m ∈ members, ∀ n ∈ ns, same m.2 n.2 ↔ m.2.sortKeys le = n.2.sortKeys le) :
    (ns.length = members.length ∧ ∀ m ∈ members, ∃ n, ns.lookup m.1 = some n ∧ same m.2 n) ↔
      (members.map fun m => (m.1, m.2.sortKeys le)).insertionSort (fun m n => le m.1 n.1) =
        (ns.map fun m => (m.1, m.2.sortKeys le)).insertionSort fun m n => le m.1 n.1 := by
  have hkeys : ∀ {entries : List (String × Json)}, (entries.map Prod.fst).Nodup →
      ((entries.map fun m => (m.1, m.2.sortKeys le)).map Prod.fst).Nodup := by
    intro entries hnodup
    rwa [List.map_map]
  constructor
  · rintro ⟨hlength, hlookup⟩
    refine insertionSort_eq_of_perm htotal htrans hantisymm ?_ (hkeys hmembers)
    have hsubset : (members.map fun m => (m.1, m.2.sortKeys le)) ⊆
        ns.map fun m => (m.1, m.2.sortKeys le) := by
      intro entry hentry
      obtain ⟨m, hm, rfl⟩ := List.mem_map.1 hentry
      obtain ⟨n, hn, hsame⟩ := hlookup m hm
      have hmem := Assoc.mem_of_lookup hn
      exact List.mem_map.2 ⟨(m.1, n), hmem, by rw [(h m hm _ hmem).1 hsame]⟩
    have hsubperm := List.subperm_of_subset (List.Nodup.of_map _ (hkeys hmembers)) hsubset
    refine hsubperm.perm_of_length_le ?_
    rw [List.length_map, List.length_map, hlength]
  · intro heq
    have hperm : (members.map fun m => (m.1, m.2.sortKeys le)).Perm
        (ns.map fun m => (m.1, m.2.sortKeys le)) := by
      have hleft := List.perm_insertionSort (fun m n : String × Json => le m.1 n.1)
        (members.map fun m => (m.1, m.2.sortKeys le))
      rw [heq] at hleft
      exact hleft.symm.trans (List.perm_insertionSort _ _)
    refine ⟨by simpa using hperm.length_eq.symm, fun m hm => ?_⟩
    obtain ⟨n, hn, hentry⟩ := List.mem_map.1
      (hperm.mem_iff.1 (List.mem_map.2 ⟨m, hm, rfl⟩))
    obtain ⟨hkey, hvalue⟩ := Prod.mk.inj hentry
    refine ⟨n.2, ?_, (h m hm n hn).2 hvalue.symm⟩
    rw [Assoc.lookup_eq_some_iff hns, ← hkey]
    exact hn

/-- Sorting by any linear order of the keys gives equal values one form, and different values
different ones. -/
theorem same_iff_sortKeys (htotal : ∀ a b, le a b ∨ le b a)
    (htrans : ∀ a b c, le a b → le b c → le a c) (hantisymm : ∀ a b, le a b → le b a → a = b)
    {v w : Json} (hv : v.uniqueKeys = true) (hw : w.uniqueKeys = true) :
    same v w ↔ v.sortKeys le = w.sortKeys le := by
  induction v using induct generalizing w with
  | array items ih =>
    rw [same_array, sortKeys_array]
    cases w with
    | array ws =>
      rw [sortKeys_array, Json.array.injEq]
      rw [uniqueKeys_array] at hv hw
      have hitems := @forall₂_same_iff le _ items ws fun v hmem w hmem' =>
        ih v hmem (hv v hmem) (hw w hmem')
      rw [← hitems]
      constructor
      · rintro ⟨_, ⟨⟩, hsame⟩
        exact hsame
      · intro hsame
        exact ⟨ws, rfl, hsame⟩
    | object ns => simp [sortKeys_object]
    | _ => simp [sortKeys, fold]
  | object members ih =>
    rw [same_object, sortKeys_object]
    cases w with
    | object ns =>
      rw [sortKeys_object, Json.object.injEq]
      rw [uniqueKeys_object] at hv hw
      rw [← same_members_iff htotal htrans hantisymm hv.1 hw.1 fun m hm n hn =>
        ih m hm (hv.2 m hm) (hw.2 n hn)]
      constructor
      · rintro ⟨_, ⟨⟩, hsame⟩
        exact hsame
      · intro hsame
        exact ⟨ns, rfl, hsame⟩
    | array ws => simp [sortKeys_array]
    | _ => simp [sortKeys, fold]
  | _ =>
    cases w with
    | array ws => simp [same, fold, sortKeys]
    | object ns => simp [same, fold, sortKeys]
    | _ => simp [same, fold, sortKeys, eq_comm]

end Sorting

end Json
