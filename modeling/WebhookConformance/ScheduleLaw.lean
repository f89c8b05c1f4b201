import WebhookConformance.BarrierInputs
import WebhookConformance.ReportAgreement

/-! What a whole run of the schedule loop has done with its rows and deliveries. -/
namespace WebhookConformance

variable {env : RunEnvironment} {plans : List ScenarioPlan} {st next : LoopState}
  {first : ScheduleEntry} {rest due entries : List ScheduleEntry}
  {requestBlob : DeliverAction → String} {configs : List ScenarioConfig}

/-- Due no later, and an earlier attempt if of the same delivery. -/
def ScheduleEntry.Precedes (e e' : ScheduleEntry) : Prop :=
  e.logicalDueNs ≤ e'.logicalDueNs ∧
    (e.coordinates = e'.coordinates → e.attemptOrdinal < e'.attemptOrdinal)

/-- The attempts made so far, against the rows still pending. -/
structure Progressed (plans : List ScenarioPlan) (entries : List ScheduleEntry) (st : LoopState) :
    Prop where
  rows : (st.attempts.map AttemptExecution.entry ++ st.pending).Perm
    (entries ++ st.attempts.filterMap retryEntry)
  ordered : (st.attempts.map AttemptExecution.entry).Pairwise ScheduleEntry.Precedes
  ahead : ∀ x ∈ st.attempts, ∀ e ∈ st.pending, x.entry.Precedes e
  bounded : st.attempts.length + weight plans st.pending ≤ templateCount plans
  verdicts : (st.deliveryVerdicts.map Prod.fst).Nodup

theorem completed_entries {completed : List AttemptExecution}
    (h : List.Forall₂ (fun e x => execute env plans e = .ok x) due completed) :
    completed.map AttemptExecution.entry = due := by
  induction h with
  | nil => rfl
  | cons hx _ ih => rw [List.map_cons, ih, (execute_ok hx).1]

theorem progressed_batch (hr : RunReady env plans) (hi : LoopInv env plans st)
    (hst : Progressed plans entries st) (hp : orderedPending st = first :: rest)
    (h : scheduleBatch env plans st first (first :: rest) = .ok next) :
    Progressed plans entries next := by
  have hpend := fun {e} => @scheduleBatch_pending env plans st next first e rest hp h
  obtain ⟨due, later, completed, releases, verdicts, hperm, -, hdue, -, hrel, hv, rfl⟩ :=
    scheduleBatch_split hp h
  obtain ⟨hx, -⟩ := releaseBatch_ok hrel
  obtain ⟨hnd, hfresh⟩ := hi.completed_fresh hr hperm hx
  cases hv.symm.trans (recordVerdicts_ok hnd hfresh)
  have hran := completed_entries hx
  have hmem : ∀ q ∈ due, q ∈ st.pending := fun q hq =>
    hperm.mem_iff.mp (List.mem_append_left _ hq)
  constructor
  case rows =>
    rw [List.map_append, hran, List.filterMap_append, List.append_assoc, ← List.append_assoc due,
      ← List.append_assoc entries, ← List.append_assoc]
    exact ((hperm.append_left _).trans hst.rows).append_right _
  case ordered =>
    rw [List.map_append, hran, List.pairwise_append]
    refine ⟨hst.ordered, ?_, ?_⟩
    · have hall := (hperm.map ScheduleEntry.coordinates).nodup_iff.mpr hi.nodup
      rw [List.map_append] at hall
      refine (List.pairwise_map.mp (List.nodup_append.mp hall).1).imp_of_mem ?_
      intro q q' hq hq' hne
      exact ⟨(hdue q hq).trans_le (hdue q' hq').ge, fun hc => (hne hc).elim⟩
    · rintro _ hold q hq
      obtain ⟨x, hxm, rfl⟩ := List.mem_map.mp hold
      exact hst.ahead x hxm q (hmem q hq)
  case ahead =>
    intro x hxm e he
    have hnew : x ∈ completed → x.entry ∈ due := fun hxm => hran ▸ List.mem_map_of_mem hxm
    rcases hpend he with ⟨hem, hlt⟩ | ⟨p, y, hpm, hpdue, hpy, hre⟩
    · rcases List.mem_append.mp hxm with hxm | hxm
      · exact hst.ahead x hxm e hem
      · have hq := hdue _ (hnew hxm)
        refine ⟨by omega, fun hc => ?_⟩
        rw [hi.eq_of_coordinates (hmem _ (hnew hxm)) hem hc] at hq
        omega
    · obtain ⟨-, hc, ho, -, hle, -⟩ := retryEntry_some hpy hre
      rw [ScheduleEntry.Precedes, hc, ho]
      rcases List.mem_append.mp hxm with hxm | hxm
      · have := hst.ahead x hxm p hpm
        exact ⟨this.1.trans hle, fun hsame => Nat.lt_succ_of_lt (this.2 hsame)⟩
      · refine ⟨((hdue _ (hnew hxm)).trans hpdue.symm).trans_le hle, fun hsame => ?_⟩
        rw [hi.eq_of_coordinates (hmem _ (hnew hxm)) hpm hsame]
        omega
  case bounded =>
    have hretry := weight_retries (fun q hq => hi.planned q (hmem q hq)) hx
    have hsum := (hperm.map (rowWeight plans)).sum_nat
    have hlen := hx.length_eq
    have hbound := hst.bounded
    simp only [weight, List.map_append, List.sum_append, List.length_append] at *
    omega
  case verdicts =>
    rw [List.map_append, List.map_map, List.nodup_append]
    refine ⟨hst.verdicts, hnd.sublist (List.filter_sublist.map _), ?_⟩
    rintro id hid _ hnew rfl
    obtain ⟨x, hxm, rfl⟩ := List.mem_map.mp hnew
    exact hfresh x (List.mem_filter.mp hxm).1 hid

theorem covers_of_monotone {g : ContextGenerator}
    (hcomp : List.Forall₂ (CompiledScenario g requestBlob) configs plans)
    (hmono : ∀ s ∈ plans, ∀ d ∈ s.deliveries, d.times.Pairwise (· ≤ ·)) :
    EveryDelivery (BackoffCoversJitter g) configs plans := by
  refine EveryDelivery.of_compiled (P := fun _ _ d => d.times.Pairwise (· ≤ ·)) hcomp
    (fun _ _ _ _ s d _ _ hs hd => hmono s (List.mem_of_getElem? hs) d (List.mem_of_getElem? hd)) ?_
  intro _ _ d hkey _ hc hd retry hretry k delay v hdelay hv
  obtain ⟨a, b, v', ha, hb, hv', he, -⟩ := hc.next_time hkey hretry hdelay
  cases hv.symm.trans hv'
  obtain ⟨hlt, rfl⟩ := List.getElem?_eq_some_iff.mp ha
  obtain ⟨hlt', rfl⟩ := List.getElem?_eq_some_iff.mp hb
  have := List.pairwise_iff_getElem.mp hd k (k + 1) hlt hlt' (by omega)
  omega

end WebhookConformance
