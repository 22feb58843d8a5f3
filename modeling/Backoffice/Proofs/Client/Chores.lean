import Backoffice.Client.Workspace
import Backoffice.Proofs.Client.Coherence

namespace Backoffice

open Backoffice.Task (Steady)
open Web (Body Multipart)

variable {h : Holding} {ok : String → String → Body → Prop} {α β ε : Type}

namespace Console

/-- Work that leaves the session alone but for reading its status, and calls what `ok` allows. -/
inductive Chore (ok : String → String → Body → Prop) : {α : Type} → ConsoleM α → Prop
  | done {α : Type} (a : α) : Chore ok (.done a)
  | bind {α β : Type} {t : ConsoleM α} {f : α → ConsoleM β} (h : Chore ok t) (hf : ∀ a, Chore ok (f a)) :
      Chore ok (t.bind f)
  | read {α : Type} (f : Context → α) : Chore ok (Console.read f)
  | modify {f : Context → Context} (hf : ∀ c, (f c).standing = c.standing) : Chore ok (Console.modify f)
  | observe : Chore ok (Console.modify Context.observed)
  | request {method url : String} {body : Body} (h : ok method url body) :
      Chore ok (Console.request method url body).run
  | postPublic {url : String} {body : Json} (h : ok "POST" url (.json body)) :
      Chore ok (Console.postPublic url body).run
  | acquire (k : ReferenceKind) : Chore ok (Task.acquire (.list k))
  | release (k : ReferenceKind) : Chore ok (Task.release (.list k))
  | all {α : Type} {ts : List (ConsoleM α)} (h : ∀ t ∈ ts, Chore ok t) : Chore ok (Task.all ts)

/-- A status that is read is taken back where a failed refresh signed the user out. -/
theorem observed_coherent {v : View} (hv : v.Coherent h) :
    View.Coherent h ⟨v.sight, v.context.observed⟩ := by
  unfold Context.observed
  split
  · exact ⟨hv.sound, Nat.le_refl _, fun _ ha ↦ by cases ha⟩
  · exact hv

theorem seen_observed {c : Context} (ha : c.observed.status.isAuthenticated) :
    c.observed.seen = c.observed.signOuts := by
  unfold Context.observed at ha ⊢
  split at ha
  · cases ha
  · next hn =>
    rw [if_neg hn]
    simpa [ha] using hn

namespace Chore

theorem except_bind {t : Action α} {f : α → Action β} (h : Chore ok t.run)
    (hf : ∀ a, Chore ok (f a).run) : Chore ok (t >>= f).run := by
  apply h.bind (f := ExceptT.bindCont f)
  intro r
  cases r with
  | error e => exact .done _
  | ok a => exact hf a

theorem lift {t : ConsoleM α} (h : Chore ok t) : Chore ok (ExceptT.lift t : Action α).run :=
  h.bind fun _ ↦ .done _

/-- Whatever runs beside it and whatever it is answered, a chore leaves a coherent view. -/
theorem steady (hh : h ≠ .held) {t : ConsoleM α} (ht : Chore (fun _ _ _ ↦ True) t) :
    Steady (seen h.amid) t := by
  induction ht with
  | done a => exact .done a
  | bind _ _ ih ihf => exact ih.bind ihf
  | read f => exact ⟨fun _ hc ↦ hc⟩
  | modify hf => exact ⟨fun c hc ↦ ⟨hc.1, hc.2.1.of_standing (hf c.context), hc.2.2⟩⟩
  | observe => exact ⟨fun _ hc ↦ ⟨hc.1, observed_coherent hc.2.1, hc.2.2⟩⟩
  | request =>
    exact steady_iff.mpr fun _ hv ↦ (request_ensures hv _ _ _).mono fun _ _ hs ↦ hs.of_ne hh
  | postPublic =>
    exact steady_iff.mpr fun _ hv ↦ (postPublic_ensures hv fun _ hr _ ↦ hr).mono fun _ _ hs ↦ hs.1
  | acquire k => exact .acquire _
  | release k => exact .release _
  | all _ ih => exact .all (fun _ _ ↦ trivial) ih

end Chore

structure Plain (ok : String → String → Body → Prop) : Prop where
  empty : ∀ method url, ok method url .empty
  multipart : ∀ method url form, ok method url (.multipart form)
  deletion : ∀ method url id reason, ok method url (.json (deleteBody id reason))

theorem Plain.free : Plain fun _ _ _ ↦ True := ⟨fun _ _ ↦ trivial, fun _ _ _ ↦ trivial, fun _ _ _ _ ↦ trivial⟩

theorem status_chore : Chore ok status := Chore.bind .observe fun _ ↦ .read _

theorem current_chore : Chore ok current := status_chore.bind fun _ ↦ .done _

theorem isAuthenticated_chore : Chore ok isAuthenticated := status_chore.bind fun _ ↦ .done _

theorem sendEnvelope_chore {method url : String} {body : Body} (ho : ok method url body)
    (dec : Decoder α) : Chore ok (sendEnvelope dec method url body).run := by
  refine (Chore.request ho).except_bind fun answer ↦ ?_
  cases envelopeOf dec answer with
  | error e => exact .done _
  | ok v => exact .done _

variable (hp : Plain ok)
include hp

theorem fetchCurrentUser_chore : Chore ok fetchCurrentUser.run := by
  refine (Chore.read _).lift.except_bind fun routes ↦ ?_
  refine (sendEnvelope_chore (hp.empty _ _) _).except_bind fun envelope ↦ ?_
  split <;> exact .done _

theorem fetchVia_chore (route : Routes → String) (dec : Decoder α)
    (judge : Envelope α → Except ClientError β) : Chore ok (fetchVia route dec judge).run := by
  refine (Chore.read _).lift.except_bind fun routes ↦ ?_
  refine (sendEnvelope_chore (hp.empty _ _) dec).except_bind fun envelope ↦ ?_
  cases judge envelope with
  | error e => exact .done _
  | ok b => exact .done _

end Console

namespace ListSource

open Console

/-- A list that is kept apart from the session, and fetched by a chore. -/
structure Apart (s : ListSource α) (ok : String → String → Body → Prop) : Prop where
  put : ∀ slot c, (s.put slot c).standing = c.standing
  fetch : Chore ok s.fetch.run

variable {s : ListSource α}

theorem Apart.modify (hs : s.Apart ok) (f : Slot α → Slot α) : Chore ok (s.modify f) :=
  .modify fun c ↦ hs.put _ c

theorem Apart.load (hs : s.Apart ok) : Chore ok s.load.run := by
  refine (hs.modify _).lift.except_bind fun _ ↦ ?_
  refine hs.fetch.lift.except_bind fun outcome ↦ ?_
  cases outcome with
  | error e => exact (hs.modify _).lift.except_bind fun _ ↦ .done _
  | ok items => exact (hs.modify _).lift.except_bind fun _ ↦ .done _

theorem Apart.sharedOrLoaded (hs : s.Apart ok) (seen : Nat) :
    Chore ok (ensure.sharedOrLoaded s seen).run := by
  refine (Chore.read _).lift.except_bind fun slot ↦ ?_
  split
  · exact .done _
  · exact .done _
  · exact hs.load

theorem Apart.ensure (hs : s.Apart ok) : Chore ok s.ensure.run := by
  refine (Chore.read _).lift.except_bind fun slot ↦ ?_
  split
  · exact .done _
  refine (Chore.acquire _).lift.except_bind fun _ ↦ ?_
  refine (hs.sharedOrLoaded _).lift.except_bind fun outcome ↦ ?_
  refine (Chore.release _).lift.except_bind fun _ ↦ ?_
  cases outcome with
  | error e => exact .done _
  | ok items => exact .done _

variable (hp : Plain ok)
include hp

theorem countries_apart : countries.Apart ok := ⟨fun _ _ ↦ rfl, fetchVia_chore hp _ _ _⟩

theorem clients_apart : clients.Apart ok := ⟨fun _ _ ↦ rfl, fetchVia_chore hp _ _ _⟩

theorem roles_apart : roles.Apart ok := ⟨fun _ _ ↦ rfl, fetchVia_chore hp _ _ _⟩

end ListSource

namespace Console

theorem modifyUnits_chore (f : UnitCache → UnitCache) : Chore ok (modifyUnits f) := .modify fun _ ↦ rfl

theorem clearUnits_chore (id : Option (Id .client)) : Chore ok (clearUnits id) := by
  cases id with
  | none => exact modifyUnits_chore fun _ ↦ []
  | some id => exact modifyUnits_chore (UnitCache.erase id)

theorem modifyDirectory_chore (f : Directory → Directory) : Chore ok (modifyDirectory f) :=
  .modify fun _ ↦ rfl

theorem noted_chore (outcome : Except ClientError α) (success : α → Directory → Directory) :
    Chore ok (noted outcome success).run := by
  cases outcome with
  | error e => exact (modifyDirectory_chore _).lift.except_bind fun _ ↦ .done _
  | ok a => exact (modifyDirectory_chore _).lift.except_bind fun _ ↦ .done _

variable (hp : Plain ok)
include hp

theorem invalidate_chore (k : ReferenceKind) : Chore ok (invalidate k) := by
  cases k with
  | countries => exact (ListSource.countries_apart hp).modify _
  | clients => exact (ListSource.clients_apart hp).modify _
  | roles => exact (ListSource.roles_apart hp).modify _

theorem fetchUnits_chore (id : Id .client) : Chore ok (fetchUnits id).run := by
  unfold fetchUnits
  split
  · exact (clearUnits_chore none).lift.except_bind fun _ ↦ .done _
  refine (modifyUnits_chore _).lift.except_bind fun _ ↦ ?_
  refine (Chore.read _).lift.except_bind fun routes ↦ ?_
  refine (sendEnvelope_chore (hp.empty _ _) _).lift.except_bind fun outcome ↦ ?_
  cases outcome with
  | error e => exact (modifyUnits_chore _).lift.except_bind fun _ ↦ .done _
  | ok envelope => exact (modifyUnits_chore _).lift.except_bind fun _ ↦ .done _

theorem fetchPage_chore (params : ListParams) : Chore ok (fetchPage params).run := by
  refine (Chore.read _).lift.except_bind fun routes ↦ ?_
  split
  · exact .done _
  · exact (sendEnvelope_chore (hp.empty _ _) _).except_bind fun _ ↦ .done _

theorem listUsers_chore (params : ListParams) : Chore ok (listUsers params).run := by
  refine (modifyDirectory_chore _).lift.except_bind fun _ ↦ ?_
  exact (fetchPage_chore hp params).lift.except_bind fun _ ↦ noted_chore _ _

theorem fetchUser_chore (id : Id .user) : Chore ok (fetchUser id).run := by
  refine (modifyDirectory_chore _).lift.except_bind fun _ ↦ ?_
  exact (fetchVia_chore hp _ _ _).lift.except_bind fun _ ↦ noted_chore _ _

theorem listAgain_chore : Chore ok listAgain :=
  (Chore.read _).bind fun _ ↦ (listUsers_chore hp _).bind fun _ ↦ .done _

omit hp in
theorem change_chore {method url : String} {body : Body} (ho : ok method url body) (fallback : String) :
    Chore ok (change method url body fallback).run := by
  refine (modifyDirectory_chore _).lift.except_bind fun _ ↦ ?_
  refine (sendEnvelope_chore ho _).except_bind fun envelope ↦ ?_
  split
  · exact .done _
  · exact .done _

theorem mutate_chore {act : Action (Envelope Json)} (ha : Chore ok act.run)
    (onSuccess : Option Json → Directory → Directory) : Chore ok (mutate act onSuccess) := by
  refine ha.bind fun outcome ↦ ?_
  cases outcome with
  | error e => exact (modifyDirectory_chore _).bind fun _ ↦ .done _
  | ok envelope =>
    exact (modifyDirectory_chore _).bind fun _ ↦ (listAgain_chore hp).bind fun _ ↦ .done _

theorem addUser_chore (form : Multipart) : Chore ok (addUser form) :=
  (Chore.read _).bind fun _ ↦ mutate_chore hp (change_chore (hp.multipart _ _ _) _) _

theorem updateUser_chore (id : Id .user) (form : Multipart) : Chore ok (updateUser id form) :=
  (Chore.read _).bind fun _ ↦ mutate_chore hp (change_chore (hp.multipart _ _ _) _) _

theorem deleteUser_chore (id : Id .user) (reason : Option String) : Chore ok (deleteUser id reason) :=
  (Chore.read _).bind fun _ ↦ mutate_chore hp (change_chore (hp.deletion _ _ _ _) _) _

end Console

namespace Desk

open Console (seen Plain)

/-- Whether a reading of a form shows nothing that its client's profile holds. -/
def Discreet (f : Desk → α) : Prop := ∀ d p, f ⟨⟨p, d.console.context⟩, d.mode, d.form⟩ = f d

/-- Work of a form that leaves the session of its client alone. -/
inductive Chore (ok : String → String → Body → Prop) : {α : Type} → DeskM α → Prop
  | done {α : Type} (a : α) : Chore ok (.done a)
  | bind {α β : Type} {t : DeskM α} {f : α → DeskM β} (h : Chore ok t) (hf : ∀ a, Chore ok (f a)) :
      Chore ok (t.bind f)
  | onConsole {α : Type} {t : ConsoleM α} (h : Console.Chore ok t) : Chore ok (Desk.onConsole t)
  | read {α : Type} {f : Desk → α} (hf : Discreet f) : Chore ok (Desk.read f)
  | modifyForm (f : UserForm → UserForm) : Chore ok (Desk.modifyForm f)

def amid (h : Holding) : Terms Desk := (seen h.amid).comap Desk.console

theorem read_steady (f : Desk → α) : Steady (amid h) (Desk.read f) := ⟨fun _ hd ↦ hd⟩

namespace Chore

theorem except_bind {t : ExceptT ε DeskM α} {f : α → ExceptT ε DeskM β} (h : Chore ok t.run)
    (hf : ∀ a, Chore ok (f a).run) : Chore ok (t >>= f).run := by
  apply h.bind (f := ExceptT.bindCont f)
  intro r
  cases r with
  | error e => exact .done _
  | ok a => exact hf a

theorem lift {t : DeskM α} (h : Chore ok t) : Chore ok (ExceptT.lift t : ExceptT ε DeskM α).run :=
  h.bind fun _ ↦ .done _

theorem steady (hh : h ≠ .held) {t : DeskM α} (ht : Chore (fun _ _ _ ↦ True) t) : Steady (amid h) t := by
  induction ht with
  | done a => exact .done a
  | bind _ _ ih ihf => exact ih.bind ihf
  | onConsole ht => exact .zoom (fun _ _ ↦ rfl) (ht.steady hh)
  | read hf => exact read_steady _
  | modifyForm f => exact ⟨fun _ hd ↦ hd⟩

end Chore

theorem mode_discreet : Discreet Desk.mode := fun _ _ ↦ rfl

theorem form_discreet : Discreet Desk.form := fun _ _ ↦ rfl

theorem warm_chore {act : Action α} (ha : Console.Chore ok act.run) : Console.Chore ok (warm act) :=
  ha.bind fun _ ↦ .done _

theorem selectCountry_chore (value : String) : Chore ok (selectCountry value) := by
  refine (Chore.read form_discreet).bind fun f ↦ ?_
  split
  · exact (Chore.modifyForm _).bind fun _ ↦ .done _
  · exact .done _

variable (hp : Plain ok)
include hp

theorem loadLists_chore : Console.Chore ok loadLists := by
  refine Console.Chore.bind (.all ?_) fun _ ↦ .done _
  simp only [List.forall_mem_cons, List.not_mem_nil, false_imp_iff, implies_true, and_true]
  exact ⟨warm_chore (ListSource.countries_apart hp).ensure,
    warm_chore (ListSource.clients_apart hp).ensure, warm_chore (ListSource.roles_apart hp).ensure⟩

theorem loadUser_chore (id : Id .user) : Chore ok (loadUser id).run := by
  refine (Chore.onConsole (Console.fetchUser_chore hp id)).lift.except_bind fun r ↦ ?_
  cases r with
  | error e => exact .done _
  | ok user =>
    refine (Chore.modifyForm _).lift.except_bind fun _ ↦ ?_
    split
    · exact (Chore.onConsole (warm_chore (Console.fetchUnits_chore hp _))).lift
    · exact .done _

theorem prepare_chore : Chore ok prepare.run := by
  refine (Chore.onConsole (loadLists_chore hp)).lift.except_bind fun _ ↦ ?_
  refine (Chore.read mode_discreet).lift.except_bind fun mode ↦ ?_
  cases mode with
  | create => exact .done _
  | edit id => exact loadUser_chore hp id

theorem selectClient_chore (id : Option (Id .client)) : Chore ok (selectClient id).run := by
  refine (Chore.modifyForm _).lift.except_bind fun _ ↦ ?_
  split
  · exact .done _
  · refine (Chore.onConsole (Console.fetchUnits_chore hp _)).lift.except_bind fun r ↦ ?_
    cases r with
    | error e => exact .done _
    | ok _ => exact .done _

theorem submit_chore : Chore ok submit := by
  refine (Chore.read form_discreet).bind fun f ↦ (Chore.read mode_discreet).bind fun mode ↦ ?_
  cases mode with
  | create => exact .onConsole (Console.addUser_chore hp _)
  | edit id => exact .onConsole (Console.updateUser_chore hp id _)

end Desk

end Backoffice
