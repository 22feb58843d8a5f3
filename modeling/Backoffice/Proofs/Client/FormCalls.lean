import Backoffice.Client.OpenForm
import Backoffice.Proofs.Client.UnitFetches

namespace Backoffice

/-- A change of the form that picks neither a client nor a unit. -/
structure PlainEdit where
  change : UserForm → UserForm
  clientId : ∀ f, (change f).clientId = f.clientId
  businessUnitId : ∀ f, (change f).businessUnitId = f.businessUnitId

inductive FormCall where
  | client (id : Option (Id .client))
  | unit (id : Option (Id .businessUnit))
  | role (id : Option (Id .role))
  | country (value : String)
  | edit (e : PlainEdit)

namespace FormCall

def task : FormCall → DeskM (Except ClientError Unit)
  | client id => (Desk.selectClient id).run
  | unit id => (Desk.selectUnit id).bind fun _ ↦ .done (.ok ())
  | role id => (Desk.selectRole id).bind fun _ ↦ .done (.ok ())
  | country value => (Desk.selectCountry value).bind fun x ↦ .done ((x.map fun _ ↦ ()).mapError .domain)
  | edit e => (Desk.modifyForm e.change).bind fun _ ↦ .done (.ok ())

def apply : FormCall → UserForm → UserForm
  | client id, f => { f with clientId := Id.filled? id, businessUnitId := none }
  | unit id, f => { f with businessUnitId := Id.filled? id }
  | role id, f => { f with roleId := Id.filled? id }
  | country value, f => (f.setCountry value).toOption.getD f
  | edit e, f => e.change f

def client? : FormCall → Option (Option (Id .client))
  | client id => some id
  | _ => none

def unit? : FormCall → Option (Option (Id .businessUnit))
  | unit id => some id
  | _ => none

variable {call : FormCall} {calls : List FormCall} {f : UserForm}

theorem eq_client_of_client? {id : Option (Id .client)} (h : call.client? = some id) : call = client id := by
  cases call with
  | client k => exact congrArg client (Option.some.inj h)
  | _ => cases h

theorem setCountry_picks (f : UserForm) (value : String) :
    ((f.setCountry value).toOption.getD f).clientId = f.clientId ∧
      ((f.setCountry value).toOption.getD f).businessUnitId = f.businessUnitId := by
  unfold UserForm.setCountry
  split
  · exact ⟨rfl, rfl⟩
  · split <;> exact ⟨rfl, rfl⟩

theorem clientId_apply (h : call.client? = none) : (call.apply f).clientId = f.clientId := by
  cases call with
  | client id => cases h
  | unit id | role id => rfl
  | country value => exact (setCountry_picks f value).1
  | edit e => exact e.clientId f

theorem businessUnitId_apply (h : call.client? = none) :
    (call.apply f).businessUnitId = (call.unit?.map Id.filled?).getD f.businessUnitId := by
  cases call with
  | client id => cases h
  | unit id | role id => rfl
  | country value => exact (setCountry_picks f value).2
  | edit e => exact e.businessUnitId f

theorem clientId_foldr (h : ∀ call ∈ calls, call.client? = none) : (calls.foldr apply f).clientId = f.clientId := by
  induction calls with
  | nil => rfl
  | cons call calls ih =>
    rw [List.foldr_cons, clientId_apply (h call List.mem_cons_self)]
    exact ih fun c hc ↦ h c (List.mem_cons_of_mem _ hc)

theorem businessUnitId_foldr (h : ∀ call ∈ calls, call.client? = none) :
    (calls.foldr apply f).businessUnitId = ((calls.findSome? unit?).map Id.filled?).getD f.businessUnitId := by
  induction calls with
  | nil => rfl
  | cons call calls ih =>
    rw [List.foldr_cons, businessUnitId_apply (h call List.mem_cons_self),
      ih fun c hc ↦ h c (List.mem_cons_of_mem _ hc), List.findSome?_cons]
    cases call.unit? <;> rfl

end FormCall

namespace Desk

variable {κ : Type} {view : Desk → κ}

theorem onConsole_spares {π α : Type} {part : Context → π} {t : ConsoleM α} (h : Console.Leaves part t)
    (hv : ∀ (c : Console) d, part c.context = part d.console.context → view { d with console := c } = view d) :
    (onConsole t).Spares view fun _ ↦ True := Task.Spares.zoom (fun _ _ ↦ rfl) hv (fun _ _ ↦ trivial) h

def fetchPicked (id : Option (Id .client)) : ExceptT ClientError DeskM Unit := do
  match id with
  | none => return ()
  | some id =>
    match ← ExceptT.lift (onConsole (Console.fetchUnits id).run) with
    | .ok _ => return ()
    | .error e => throw e

theorem selectClient_run (id : Option (Id .client)) : (selectClient id).run =
    .update (fun d ↦ { d with form := (FormCall.client id).apply d.form }) (fetchPicked (Id.filled? id)).run := rfl

theorem fetchPicked_spares {id : Option (Id .client)}
    (h : ∀ k, id = some k → (onConsole (Console.fetchUnits k).run).Spares view fun _ ↦ True) :
    (fetchPicked id).run.Spares view fun _ ↦ True := by
  cases id with
  | none => exact .done _
  | some k =>
    refine (h k rfl).lift.except_bind fun x ↦ ?_
    cases x <;> exact .done _

theorem fetchPicked_keeps_form (id : Option (Id .client)) :
    (fetchPicked id).run.Spares Desk.form fun _ ↦ True := by
  refine fetchPicked_spares fun k _ ↦ ?_
  have hleaves : Console.Leaves (fun _ ↦ ()) (Console.fetchUnits k).run :=
    Console.fetchUnits_leaves (fun _ _ ↦ rfl) (fun _ _ ↦ rfl) fun _ _ ↦ rfl
  exact onConsole_spares hleaves fun _ _ _ ↦ rfl

theorem fetchPicked_keeps_list {id : Option (Id .client)} {k : Id .client} (h : Id.filled? id ≠ some k) :
    (fetchPicked (Id.filled? id)).run.Spares (fun d ↦ d.console.context.units.list k) fun _ ↦ True := by
  refine fetchPicked_spares fun j hj ↦ ?_
  have hfilled : j.isBlank = false := (Id.filled?_eq_some_iff.mp hj).2
  have hne : j ≠ k := by
    rintro rfl
    exact h hj
  have hleaves : Console.Leaves (fun c ↦ c.units.list k) (Console.fetchUnits j).run := by
    refine Console.fetchUnits_leaves (fun _ _ ↦ rfl) (fun hb ↦ ?_) fun f c ↦ UnitCache.list_update_of_ne hne f c.units
    cases hfilled.symm.trans hb
  exact onConsole_spares hleaves fun _ _ hc ↦ hc

end Desk

namespace FormCall

theorem task_park (call : FormCall) (s : Share Gate Desk) :
    (call.task.park s).1.Spares Desk.form (fun _ ↦ True) ∧
      (call.task.park s).2.state.form = call.apply s.state.form := by
  cases call with
  | client id =>
    rw [task, Desk.selectClient_run, Task.park]
    obtain ⟨hs, hk⟩ := ((Desk.fetchPicked_keeps_form (Id.filled? id)).sparesFrom _).park
    exact ⟨hs, hk.state⟩
  | unit id | role id | edit e => exact ⟨trivial, rfl⟩
  | country value =>
    cases hv : s.state.form.setCountry value <;>
      simp [task, apply, Desk.selectCountry, Desk.read, Desk.modifyForm, Task.bind, Task.park, Strand.Spares,
        Except.toOption, hv]

theorem task_keeps_list {call : FormCall} {k : Id .client} (h : call ≠ .client (some k)) :
    call.task.Spares (fun d ↦ d.console.context.units.list k) fun _ ↦ True := by
  cases call with
  | client id =>
    have hne : Id.filled? id ≠ some k := fun hf ↦ h (congrArg client (Id.filled?_eq_some_iff.mp hf).1)
    rw [task, Desk.selectClient_run]
    exact ⟨fun d ↦ ⟨rfl, (Desk.fetchPicked_keeps_list hne).sparesFrom _⟩⟩
  | unit id | role id | edit e => exact ⟨fun _ ↦ ⟨rfl, trivial⟩⟩
  | country value =>
    refine ⟨fun d ↦ ?_⟩
    cases hv : d.form.setCountry value <;>
      simp [task, Desk.selectCountry, Desk.read, Desk.modifyForm, Task.bind, Task.SparesFrom, hv]

end FormCall

abbrev FormCalls := Pool FormCall Gate Desk (Except ClientError Unit)

abbrev FormCaller := Member FormCall Gate Desk (Except ClientError Unit)

/-- Any number of calls on one form, in any order. Whatever else happens in the client while they wait, nobody else
changes the form. -/
def formCalls : Setting FormCall Gate Desk (Except ClientError Unit) where
  task := FormCall.task
  admits _ := True
  allows _ _ _ := True
  passes d d' := d'.form = d.form

def Report.begun? {ι α : Type} : Report ι α → Option ι
  | .begun job => some job
  | .ended _ _ => none

namespace FormCalls

inductive Stands : FormCaller → Prop
  | ready (call : FormCall) : Stands ⟨call, [], .ready call.task⟩
  | begun (call : FormCall) (log : List Exchange) {st : Strand Gate Desk (Except ClientError Unit)}
      (hb : st.begun = true) (hs : st.Spares Desk.form fun _ ↦ True) : Stands ⟨call, log, st⟩

def hear : Report FormCall (Except ClientError Unit) → UserForm → UserForm
  | .begun call, f => call.apply f
  | .ended _ _, f => f

/-- The form changes only as calls begin. -/
theorem audible : Audible formCalls Desk.form hear Stands where
  join call _ := .ready call
  pass hp := hp
  turn {m m' t s s'} hm hg := by
    have hb := Member.begun_of_go hg
    have hended : ∀ f, ((m'.result?.map (Report.ended m.job)).toList).foldr hear f = f := by
      intro f
      cases m'.result? <;> rfl
    simp only [Member.go, Option.map_eq_some_iff, Prod.mk.injEq] at hg
    obtain ⟨⟨st, s₁⟩, hg, rfl, rfl⟩ := hg
    rw [Member.reports, List.foldr_append, hended]
    cases hm with
    | ready call =>
      cases t with
      | start =>
        obtain ⟨hs, hf⟩ := call.task_park s
        rw [Option.some.inj hg] at hs hf
        exact ⟨.begun call _ hb hs, hf⟩
      | _ => cases hg
    | begun call log hb₀ hs =>
      obtain ⟨hs', -, hspared⟩ := Strand.spares_of_go hs hg
      refine ⟨.begun call _ hb hs', ?_⟩
      rw [if_pos hb₀]
      exact hspared.state

theorem foldr_hear (h : List (Report FormCall (Except ClientError Unit))) (f : UserForm) :
    h.foldr hear f = (h.filterMap Report.begun?).foldr FormCall.apply f := by
  induction h with
  | nil => rfl
  | cons r h ih =>
    cases r with
    | begun call => exact congrArg call.apply ih
    | ended call x => exact ih

def KeepsLists (m : FormCaller) : Prop := ∀ k, m.job ≠ .client (some k) →
  m.strand.Spares (fun d ↦ d.console.context.units.list k) fun _ ↦ True

theorem keepsLists_of_go {m m' : FormCaller} {t : Turn} {s s' : Share Gate Desk} (hm : KeepsLists m)
    (hg : m.go t s = some (m', s')) : KeepsLists m' ∧ ∀ k, m.job ≠ .client (some k) →
      s'.state.console.context.units.list k = s.state.console.context.units.list k := by
  simp only [Member.go, Option.map_eq_some_iff, Prod.mk.injEq] at hg
  obtain ⟨⟨st, s₁⟩, hg, rfl, rfl⟩ := hg
  refine ⟨fun k hk ↦ ?_, fun k hk ↦ ?_⟩
  · exact (Strand.spares_of_go (hm k hk) hg).1
  · exact (Strand.spares_of_go (hm k hk) hg).2.2.state

theorem unitOptions_park (s : Share Gate Desk) :
    let cached := (s.state.form.clientId.map fun id ↦ (s.state.console.context.units.list id).items).getD []
    ∃ options, Desk.unitOptions.park s = (.ended options, s) ∧
      (options = cached ∨ ∃ unit, s.state.form.businessUnitId = some unit.id ∧ (∀ u ∈ cached, u.id ≠ unit.id) ∧
        options = unit :: cached) := by
  intro cached
  let sources : UnitSources := ⟨s.state.console.context.directory.selected, s.state.console.context.directory.users,
    s.state.console.context.units.items⟩
  refine ⟨sources.options s.state.form.businessUnitId cached, rfl, ?_⟩
  rw [UnitSources.options]
  split
  · exact .inl rfl
  · next id hid =>
    split
    · exact .inl rfl
    · next habsent =>
      split
      · next name _ => exact .inr ⟨⟨id, name⟩, (Id.filled?_eq_some_iff.mp hid).1, by simpa using habsent, rfl⟩
      · exact .inl rfl

/-- An open form beside any calls on it, in any order, whatever their fetches are answered and whenever. The form is
what the calls that have begun make of it, one after the other. Its client is the one picked last, if that is not
blank, and its unit the one picked since; where no client was picked, they are as at first but for a unit picked. It
offers the units that are kept for its client, with its own unit before them if they lack it. A call that has begun
changes the form no more, and one that does not pick a client changes nothing that is kept for that client. -/
theorem form_of_calls {d : Desk} {h : List (Report FormCall (Except ClientError Unit))} {q : FormCalls}
    (hq : Pool.Heard formCalls (.empty d) h q) :
    let calls := h.filterMap Report.begun?
    let form := q.share.state.form
    let list := q.share.state.console.context.units.list
    let cached := (form.clientId.map fun id ↦ (list id).items).getD []
    form = calls.foldr FormCall.apply d.form ∧
    (∀ later id earlier, calls = later ++ .client id :: earlier → (∀ call ∈ later, call.client? = none) →
      form.clientId = Id.filled? id ∧ form.businessUnitId = (later.findSome? FormCall.unit?).bind Id.filled?) ∧
    ((∀ call ∈ calls, call.client? = none) → form.clientId = d.form.clientId ∧
      form.businessUnitId = ((calls.findSome? FormCall.unit?).map Id.filled?).getD d.form.businessUnitId) ∧
    (∃ options, Desk.unitOptions.park q.share = (.ended options, q.share) ∧
      (options = cached ∨ ∃ unit, form.businessUnitId = some unit.id ∧ (∀ u ∈ cached, u.id ≠ unit.id) ∧
        options = unit :: cached)) ∧
    ∀ (n : Nat) (m m' : FormCaller) (t : Turn) (s : Share Gate Desk), q.members[n]? = some m →
      m.go t q.share = some (m', s) → (m.strand.begun = true → s.state.form = form) ∧
        ∀ k, m.job ≠ .client (some k) → s.state.console.context.units.list k = list k := by
  intro calls form list cached
  have hform : form = calls.foldr FormCall.apply d.form := (audible.part_eq hq).trans (foldr_hear h _)
  refine ⟨hform, fun later id earlier hc hlater ↦ ?_, fun hnone ↦ ?_, unitOptions_park q.share,
    fun n m m' t s hm hg ↦ ⟨fun hb ↦ ?_, fun k hk ↦ ?_⟩⟩
  · rw [hform, hc, List.foldr_append, List.foldr_cons]
    refine ⟨FormCall.clientId_foldr hlater, (FormCall.businessUnitId_foldr hlater).trans ?_⟩
    cases later.findSome? FormCall.unit? <;> rfl
  · rw [hform]
    exact ⟨FormCall.clientId_foldr hnone, FormCall.businessUnitId_foldr hnone⟩
  · obtain ⟨-, hs⟩ := audible.turn (audible.stands hq m (List.mem_of_getElem? hm)) hg
    refine hs.trans ?_
    rw [Member.reports, hb, if_pos rfl, List.append_nil]
    cases m'.result? <;> rfl
  · have hkeeps : KeepsLists m := hq.forall_members (fun call _ _ hk ↦ FormCall.task_keeps_list hk)
      (fun hm hg ↦ (keepsLists_of_go hm hg).1) m (List.mem_of_getElem? hm)
    exact (keepsLists_of_go hkeeps hg).2 k hk

instance : DecidablePred formCalls.admits := fun _ ↦ inferInstanceAs (Decidable True)

instance (rs : List Record) (r : Record) : DecidablePred (formCalls.allows rs r) :=
  fun _ ↦ inferInstanceAs (Decidable True)

/-- One client is picked and a unit, then another client. The answer for the first client comes last, and the form
holds and offers what the other one has. -/
theorem form_of_calls_of_late_answer :
    let host : Host := ⟨.empty .memory, ⟨0⟩, fun _ ↦ ⟨List.replicate 32 0, rfl⟩, 0⟩
    let d : Desk := ⟨⟨.blank host, .fresh (.ofBase "http://h") "host"⟩, .create, .blank⟩
    let slow : UnitOption := ⟨⟨"x"⟩, "Slow"⟩
    let fast : UnitOption := ⟨⟨"y"⟩, "Fast"⟩
    ∃ h q, Pool.Heard formCalls (.empty d) h q ∧
      (h.head?.map Report.job).bind FormCall.client? = some (some ⟨"c1"⟩) ∧
      (q.share.state.console.context.units.list ⟨"c1"⟩).items = [slow] ∧
      q.share.state.form.clientId = some ⟨"c2"⟩ ∧ q.share.state.form.businessUnitId = none ∧
      Desk.unitOptions.park q.share = (.ended [fast], q.share) := by
  intro host d slow fast
  let answer (unit : UnitOption) := "\x7b\"success\":true,\"message\":\"\",\"data\":[\x7b\"_id\":\"" ++
    unit.id.text ++ "\",\"name\":\"" ++ unit.name ++ "\"\x7d]\x7d"
  obtain ⟨h, q, hq, hlast, hcalls, hslow, hfast⟩ : ∃ h q, Pool.Heard formCalls (.empty d) h q ∧
      (h.head?.map Report.job).bind FormCall.client? = some (some ⟨"c1"⟩) ∧
      (h.filterMap Report.begun?).head?.bind FormCall.client? = some (some ⟨"c2"⟩) ∧
      (q.share.state.console.context.units.list ⟨"c1"⟩).items = [slow] ∧
      (q.share.state.console.context.units.list ⟨"c2"⟩).items = [fast] :=
    Pool.exists_heard_of_listen [.join (.client (some ⟨"c1"⟩)), .join (.unit (some slow.id)),
      .join (.client (some ⟨"c2"⟩)), .turn 0 .start, .turn 1 .start, .turn 2 .start,
      .turn 2 (.receive 200 (answer fast)), .turn 0 (.receive 200 (answer slow))] (by decide +kernel)
  obtain ⟨call, hcall, hclient⟩ := Option.bind_eq_some_iff.mp hcalls
  obtain ⟨earlier, he⟩ := List.head?_eq_some_iff.mp hcall
  rw [FormCall.eq_client_of_client? hclient] at he
  obtain ⟨-, hpicked, -, ⟨options, hoptions, hoffer⟩, -⟩ := form_of_calls hq
  obtain ⟨hc, hu⟩ := hpicked [] (some ⟨"c2"⟩) earlier he fun _ hm ↦ (List.not_mem_nil hm).elim
  refine ⟨h, q, hq, hlast, hslow, hc, hu, ?_⟩
  rw [hoptions]
  rcases hoffer with rfl | ⟨unit, hunit, -⟩
  · rw [hc]
    exact congrArg (fun items ↦ (Strand.ended items, q.share)) hfast
  · cases hu.symm.trans hunit

end FormCalls

end Backoffice
