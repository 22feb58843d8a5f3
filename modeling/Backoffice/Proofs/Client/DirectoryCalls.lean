import Backoffice.Proofs.Client.Mutation

namespace Backoffice

open Web (Request Response Body Multipart)

variable {α β : Type}

def errorText? : Except ClientError α → Option String
  | .ok _ => none
  | .error e => some e.message

namespace Directory

structure Settled (last : Except ClientError α) (d : Directory) : Prop where
  loading : d.loading = false
  error : d.error = errorText? last

structure Intact (before after : Directory) : Prop where
  page : after.page = before.page
  selected : after.selected = before.selected

/-- A directory before and after a call that fetches. -/
structure Fetched (before : Directory) (result : Except ClientError α) (after : Directory) : Prop where
  settled : after.Settled result
  intact : ∀ e, result = .error e → before.Intact after

theorem settled_listed (relisted : Except ClientError UserPage) (params : ListParams) (d : Directory) :
    (Console.listed relisted params d).Settled relisted := by
  cases relisted with
  | ok page => exact ⟨rfl, rfl⟩
  | error e => exact ⟨rfl, rfl⟩

theorem settled_failing (e : ClientError) (d : Directory) : (d.failing e).Settled (.error e : Except ClientError α) :=
  ⟨rfl, rfl⟩

end Directory

namespace Console

variable {backend : Backend} {c : Console} {tr : List Exchange}

theorem listUsers_fetched (params : ListParams) :
    let r := (listUsers params).run.run backend c tr
    c.context.directory.Fetched r.result r.state.context.directory := by
  have h := @listUsers_directory backend c tr params
  generalize (listUsers params).run.run backend c tr = r at h ⊢
  replace h : r.state.context.directory = listed r.result params c.context.directory := h
  refine ⟨h ▸ Directory.settled_listed r.result params c.context.directory, fun e he ↦ ?_⟩
  rw [h, he]
  exact ⟨rfl, rfl⟩

theorem fetchUser_run (id : Id .user) :
    (fetchUser id).run.run backend c tr =
      let fetched := (fetchVia (·.user id) AdminUser.decode userOf).run.run backend (c.begun .starting) tr
      (noted fetched.result fun u d ↦ { d with selected := some u }).run.run backend fetched.state fetched.trace := by
  rw [fetchUser, run_sure_bind, run_sure_bind]
  rfl

theorem fetchUser_fetched (id : Id .user) :
    let r := (fetchUser id).run.run backend c tr
    c.context.directory.Fetched r.result r.state.context.directory := by
  have hleaves : Leaves Context.directory (fetchVia (·.user id) AdminUser.decode userOf).run :=
    fetchVia_leaves overlooks_directory _ _ _
  have hfetched := hleaves.run_eq backend (c.begun .starting) tr
  rw [fetchUser_run]
  generalize (fetchVia (·.user id) AdminUser.decode userOf).run.run backend (c.begun .starting) tr = fetched at *
  obtain ⟨hresult, hdirectory⟩ := noted_run backend fetched.state fetched.trace fetched.result
    fun u d ↦ { d with selected := some u }
  dsimp only
  rw [hresult, hdirectory, hfetched]
  cases fetched.result with
  | ok u => exact ⟨⟨rfl, rfl⟩, nofun⟩
  | error e => exact ⟨Directory.settled_failing e _, fun _ _ ↦ ⟨rfl, rfl⟩⟩

/-- The backend accepts a change: its answer has an envelope that says it is a success. -/
def Accepted (backend : Backend) (c : Console) (tr : List Exchange) (method url : String) (body : Body) : Prop :=
  ∃ r v, ((request method url body).run.run backend c tr).result = .ok r ∧ envelopeOf Decoder.any r = .ok v ∧
    v.success = true

theorem result_bind_of_done (t : Action α) {f : α → Action β} {g : α → Except ClientError β}
    (h : ∀ a, (f a).run = .done (g a)) :
    ((t >>= f).run.run backend c tr).result = (t.run.run backend c tr).result.bind g := by
  have hb : (t >>= f).run.run backend c tr = (t.run.bind (ExceptT.bindCont f)).run backend c tr := rfl
  rw [hb, Task.run_bind]
  generalize t.run.run backend c tr = r
  obtain ⟨_ | a, s, tr'⟩ := r
  · rfl
  · exact congrArg (fun u : ConsoleM (Except ClientError β) ↦ (u.run backend s tr').result) (h a)

theorem result_sendEnvelope (dec : Decoder α) (method url : String) (body : Body) :
    ((sendEnvelope dec method url body).run.run backend c tr).result =
      ((request method url body).run.run backend c tr).result.bind (envelopeOf dec) := by
  refine result_bind_of_done _ fun answer ↦ ?_
  cases envelopeOf dec answer <;> rfl

theorem result_change (method url fallback : String) (body : Body) :
    ((change method url body fallback).run.run backend c tr).result =
      (((request method url body).run.run backend (c.begun .starting) tr).result.bind (envelopeOf Decoder.any)).bind
        fun v ↦ if v.success then .ok v else .error (.rejected (messageOr fallback v.message)) := by
  rw [← result_sendEnvelope]
  have hbegun : (change method url body fallback).run.run backend c tr =
      (sendEnvelope Decoder.any method url body >>= fun envelope ↦
        if envelope.success then return envelope
        else throw (.rejected (messageOr fallback envelope.message)) : Action (Envelope Json)).run.run backend
          (c.begun .starting) tr := by
    rw [change, modifyDirectory, run_sure_bind]
    rfl
  rw [hbegun]
  refine result_bind_of_done _ fun v ↦ ?_
  split <;> rfl

theorem exists_result_change_iff (method url fallback : String) (body : Body) :
    (∃ v, ((change method url body fallback).run.run backend c tr).result = .ok v) ↔
      Accepted backend (c.begun .starting) tr method url body := by
  rw [result_change, Accepted]
  generalize ((request method url body).run.run backend (c.begun .starting) tr).result = answer
  constructor
  · rintro ⟨v, hv⟩
    obtain ⟨w, hw, hv⟩ := bind_eq_ok.mp hv
    obtain ⟨r, hr, hw⟩ := bind_eq_ok.mp hw
    split at hv
    · next hs => exact ⟨r, w, hr, hw, hs⟩
    · cases hv
  · rintro ⟨r, v, rfl, hv, hs⟩
    refine ⟨v, ?_⟩
    change ((envelopeOf Decoder.any r).bind _) = _
    rw [hv]
    exact if_pos hs

/-- What a change of a user has come to, with `act` as the change itself. One that the backend accepts succeeds, and
the users have been listed again with the last parameters. One that it does not accept fails with its error. -/
structure Changed (backend : Backend) (c : Console) (tr : List Exchange) (act : Action (Envelope Json))
    (effect : Option Json → Directory → Directory) (accepted : Prop) (r : Task.Run Console MutationOutcome) :
    Prop where
  success_iff : r.result.success = true ↔ accepted
  made : r.result.success = true → ∃ data relisted, Made backend c tr act effect data relisted ∧
    r.state.context.directory.Settled relisted
  failed : r.result.success = false → ∃ e, (act.run.run backend c tr).result = .error e ∧ r.result = .failed e ∧
    c.context.directory.Intact r.state.context.directory ∧
    r.state.context.directory.Settled (.error e : Except ClientError (Envelope Json))

variable {act : Action (Envelope Json)} {effect : Option Json → Directory → Directory}

theorem mutate_run_ok {v : Envelope Json} (h : (act.run.run backend c tr).result = .ok v) :
    ((mutate act effect).run backend c tr).result = .succeeded v.message := by
  rw [mutate_eq, Task.run_bind]
  dsimp only
  rw [h]
  dsimp only
  rw [Task.run_bind]
  rfl

theorem mutate_run_error {e : ClientError} (h : (act.run.run backend c tr).result = .error e) :
    (mutate act effect).run backend c tr =
      let r := act.run.run backend c tr
      ⟨.failed e, r.state.begun (Directory.failing e), r.trace⟩ := by
  rw [mutate_eq, Task.run_bind]
  dsimp only
  rw [h]
  rfl

theorem changed_of_starting {accepted : Prop} (ha : (∃ v, (act.run.run backend c tr).result = .ok v) ↔ accepted)
    (hd : (act.run.run backend c tr).state.context.directory = c.context.directory.starting) :
    Changed backend c tr act effect accepted ((mutate act effect).run backend c tr) := by
  cases hr : (act.run.run backend c tr).result with
  | ok v =>
    have hresult : ((mutate act effect).run backend c tr).result = .succeeded v.message := mutate_run_ok hr
    refine ⟨iff_of_true (by rw [hresult]; rfl) (ha.mp ⟨v, hr⟩), fun h ↦ ?_, fun h ↦ ?_⟩
    · obtain ⟨data, relisted, hmade, hafter⟩ := exists_made h
      exact ⟨data, relisted, hmade, hafter ▸ Directory.settled_listed relisted _ _⟩
    · rw [hresult] at h
      cases h
  | error e =>
    have hrejected : ¬accepted := by
      intro h
      obtain ⟨v, hv⟩ := ha.mpr h
      cases hr.symm.trans hv
    have hintact : c.context.directory.Intact ((act.run.run backend c tr).state.context.directory.failing e) := by
      rw [hd]
      exact ⟨rfl, rfl⟩
    rw [mutate_run_error hr]
    exact ⟨iff_of_false Bool.false_ne_true hrejected, nofun,
      fun _ ↦ ⟨e, hr, rfl, hintact, Directory.settled_failing e _⟩⟩

theorem mutate_changed (method url fallback : String) (body : Body) :
    Changed backend c tr (change method url body fallback) effect
      (Accepted backend (c.begun .starting) tr method url body)
      ((mutate (change method url body fallback) effect).run backend c tr) :=
  changed_of_starting (exists_result_change_iff method url fallback body) (change_directory method url fallback body)

theorem addUser_run (form : Multipart) :
    (addUser form).run backend c tr =
      (mutate (change "POST" c.context.routes.addUser (.multipart form) "Failed to add user") fun _ d ↦ d).run
        backend c tr := by
  rw [addUser, run_read_bind]

/-- What any call of the directory leaves behind, in any state and with any backend: nothing is loading, and the error
is that of the last request, which after a change that was accepted is the one that lists the users again. A call that
fails leaves the page and the selected user as they were. A change succeeds just if the backend accepts it. -/
theorem directory_calls_settle (backend : Backend) (c : Console) (tr : List Exchange) :
    let before := c.context.directory
    let accepted := Accepted backend (c.begun .starting) tr
    (∀ params, let r := (listUsers params).run.run backend c tr
      before.Fetched r.result r.state.context.directory) ∧
    (∀ id, let r := (fetchUser id).run.run backend c tr
      before.Fetched r.result r.state.context.directory) ∧
    (∀ form, Changed backend c tr
      (change "POST" c.context.routes.addUser (.multipart form) "Failed to add user") (fun _ d ↦ d)
      (accepted "POST" c.context.routes.addUser (.multipart form)) ((addUser form).run backend c tr)) ∧
    (∀ id form, Changed backend c tr
      (change "POST" c.context.routes.editUser (.multipart form) "Failed to update user") (Directory.patched id)
      (accepted "POST" c.context.routes.editUser (.multipart form)) ((updateUser id form).run backend c tr)) ∧
    (∀ id reason, Changed backend c tr
      (change "DELETE" c.context.routes.deleteUser (.json (deleteBody id reason)) "Failed to delete user")
      (fun _ ↦ Directory.dropUser id) (accepted "DELETE" c.context.routes.deleteUser (.json (deleteBody id reason)))
      ((deleteUser id reason).run backend c tr)) := by
  intro before accepted
  refine ⟨listUsers_fetched, fetchUser_fetched, fun form ↦ ?_, fun id form ↦ ?_, fun id reason ↦ ?_⟩
  · rw [addUser_run]
    exact mutate_changed _ _ _ _
  · rw [updateUser_run]
    exact mutate_changed _ _ _ _
  · rw [deleteUser_run]
    exact mutate_changed _ _ _ _

theorem listing_of_two_fails : ((listUsers .none).run.run renamingBackend ofTwoUsers []).result.toOption = none := by
  decide +kernel

theorem addition_to_two_fails : ((addUser formOfAda).run silentBackend ofTwoUsers []).result.success = false := by
  decide +kernel

/-- One of two users is deleted, and then they cannot be listed. Where the backend is silent nobody can be added. -/
theorem directory_calls_settle_of_two :
    (∃ e, ((listUsers .none).run.run renamingBackend ofTwoUsers []).result = .error e ∧
      ofTwoUsers.context.directory.Intact
        ((listUsers .none).run.run renamingBackend ofTwoUsers []).state.context.directory) ∧
    (((deleteUser listedAda.id none).run renamingBackend ofTwoUsers []).result.success = true ∧
      Accepted renamingBackend (ofTwoUsers.begun .starting) [] "DELETE" ofTwoUsers.context.routes.deleteUser
        (.json (deleteBody listedAda.id none)) ∧
      ∃ relisted : Except ClientError UserPage,
        ((deleteUser listedAda.id none).run renamingBackend ofTwoUsers []).state.context.directory.Settled relisted) ∧
    ((addUser formOfAda).run silentBackend ofTwoUsers []).result.success = false ∧
      ∃ e, ((addUser formOfAda).run silentBackend ofTwoUsers []).result = .failed e ∧
        ofTwoUsers.context.directory.Intact
          ((addUser formOfAda).run silentBackend ofTwoUsers []).state.context.directory ∧
        ((addUser formOfAda).run silentBackend ofTwoUsers []).state.context.directory.Settled
          (.error e : Except ClientError (Envelope Json)) := by
  obtain ⟨hlist, -, -, -, hdelete⟩ := directory_calls_settle renamingBackend ofTwoUsers []
  obtain ⟨-, -, hadd, -, -⟩ := directory_calls_settle silentBackend ofTwoUsers []
  refine ⟨?_, ?_, addition_to_two_fails, ?_⟩
  · obtain ⟨-, hintact⟩ := hlist .none
    have hfails := listing_of_two_fails
    generalize (listUsers .none).run.run renamingBackend ofTwoUsers [] = listed at *
    cases hr : listed.result with
    | ok page =>
      rw [hr] at hfails
      cases hfails
    | error e => exact ⟨e, rfl, hintact e hr⟩
  · obtain ⟨hiff, hmade, -⟩ := hdelete listedAda.id none
    obtain ⟨-, relisted, -, hsettled⟩ := hmade deletion_of_two_succeeds
    exact ⟨deletion_of_two_succeeds, hiff.mp deletion_of_two_succeeds, relisted, hsettled⟩
  · obtain ⟨e, -, hfailed, hintact, hsettled⟩ := (hadd formOfAda).failed addition_to_two_fails
    exact ⟨e, hfailed, hintact, hsettled⟩

end Console

end Backoffice
