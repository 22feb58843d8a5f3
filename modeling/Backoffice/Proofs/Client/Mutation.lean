import Mathlib.Data.List.Forall2
import Backoffice.Client.Form
import Backoffice.Proofs.Client.Rejection
import Backoffice.Proofs.Record.Merging

namespace Backoffice

open Web (Body Multipart Url)

/-- The identifier of a record with a patch laid over it: the one under `_id`, which is the record's own unless the
patch has another, or the one under `id` where that is none. -/
def Json.chosenId? (patch : Json) (own : Id .user) : Option String :=
  chooseId? ((patch.given? "_id").getD (.str own.text)).str? ((patch.given? "id").bind Json.str?)

/-- What a change gave back says that the record `id` is another one. -/
def Renames (data : Option Json) (id other : Id .user) : Prop :=
  other ≠ id ∧ ∃ patch, data = some patch ∧ patch.chosenId? id = some other.text

theorem optional_text_eq {v : Json} {s : Option String} (h : Decoder.text.optional v.toDocument = .ok s) :
    s = v.str? := by
  cases v <;> cases h <;> rfl

namespace AdminUser

open Backoffice.AdminUser.Part

variable {u m : AdminUser} {patch : Json} {id : Id .user} {data : Option Json}

theorem chosenId?_of_decode (h : decodeValue decode (u.toJson.overlay patch) = .ok m) :
    patch.chosenId? u.id = some m.id.text := by
  obtain ⟨underscored, plain, hu, hp, hid⟩ := decode_overlay_iff.mp h .id
  have hown : patchedAt patch u "_id" = some ((patch.given? "_id").getD (.str u.id.text)) := by
    have hwritten : Json.under u.members "_id" = some (.str u.id.text) := under_name .id u
    rw [patchedAt, hwritten]
    cases patch.given? "_id" <;> rfl
  have hother : patchedAt patch u "id" = patch.given? "id" := patchedAt_otherName (p := .id) rfl
  have hunderscored := optional_text_eq ((readAt_of_some hown).symm.trans hu)
  have hplain : plain = (patch.given? "id").bind Json.str? := by
    cases hg : patch.given? "id" with
    | none => exact Except.ok.inj (hp.symm.trans (readAt_of_none (hother.trans hg)))
    | some v => exact optional_text_eq ((readAt_of_some (hother.trans hg)).symm.trans hp)
  rw [Json.chosenId?, ← hunderscored, ← hplain]
  rw [chooseId] at hid
  split at hid
  · next s hs => exact hs.trans (congrArg (some ·.text) (Except.ok.inj hid))
  · cases hid

theorem id_merge (u : AdminUser) (patch : Json) :
    (u.merge patch).id = u.id ∨ patch.chosenId? u.id = some (u.merge patch).id.text := by
  by_cases h : ∃ m, decodeValue decode (u.toJson.overlay patch) = .ok m
  · obtain ⟨m, hm⟩ := h
    rw [merge_of_decode hm]
    exact .inr (chosenId?_of_decode hm)
  · rw [merge_of_not_decode fun m hm ↦ h ⟨m, hm⟩]
    exact .inl rfl

/-- A cached user after an update of the user `id` that gave back `data`. -/
def takeOver (id : Id .user) (data : Option Json) (u : AdminUser) : AdminUser :=
  match data with
  | some patch => if u.id = id ∧ patch.isObject then u.merge patch else u
  | none => u

theorem id_takeOver (id : Id .user) (data : Option Json) (u : AdminUser) :
    (u.takeOver id data).id = u.id ∨ u.id = id ∧ Renames data id (u.takeOver id data).id := by
  cases data with
  | none => exact .inl rfl
  | some patch =>
    by_cases hu : u.id = id ∧ patch.isObject
    · have htaken : u.takeOver id (some patch) = u.merge patch := if_pos hu
      obtain ⟨rfl, -⟩ := hu
      rw [htaken]
      by_cases hsame : (u.merge patch).id = u.id
      · exact .inl hsame
      · exact .inr ⟨rfl, hsame, patch, rfl, (u.id_merge patch).resolve_left hsame⟩
    · have hkept : u.takeOver id (some patch) = u := if_neg hu
      rw [hkept]
      exact .inl rfl

theorem id_takeOver_of_not_renames (h : ∀ j, ¬ Renames data id j) (u : AdminUser) :
    (u.takeOver id data).id = u.id :=
  (u.id_takeOver id data).resolve_right fun hr ↦ h _ hr.2

end AdminUser

namespace Directory

variable {id : Id .user} {data : Option Json} {d : Directory}

theorem mapUser_merge (id : Id .user) {patch : Json} (h : patch.isObject) :
    mapUser id (·.merge patch) = AdminUser.takeOver id (some patch) := by
  funext u
  simp only [mapUser, AdminUser.takeOver, h, and_true]

theorem patched_eq (id : Id .user) (data : Option Json) (d : Directory) :
    d.patched id data =
      { d with
        page := d.page.map fun p ↦ { p with users := p.users.map (AdminUser.takeOver id data) }
        selected := d.selected.map (AdminUser.takeOver id data) } := by
  have unchanged (h : AdminUser.takeOver id data = fun u ↦ u) :
      { d with
        page := d.page.map fun p ↦ { p with users := p.users.map (AdminUser.takeOver id data) }
        selected := d.selected.map (AdminUser.takeOver id data) } = d := by
    simp [h]
  cases data with
  | none => exact (unchanged rfl).symm
  | some patch =>
    cases h : patch.isObject with
    | true => simp only [patched, h, if_true, mapUsers, mapUser_merge id h]
    | false =>
      have hkept : AdminUser.takeOver id (some patch) = fun u ↦ u := by
        funext u
        simp [AdminUser.takeOver, h]
      rw [unchanged hkept, patched, h]
      rfl

end Directory

namespace Console

variable {α β : Type} {backend : Backend} {c : Console} {tr : List Exchange}

theorem run_sure_bind (t : ConsoleM α) (k : α → Action β) :
    (sure t >>= k).run.run backend c tr =
      let r := t.run backend c tr
      (k r.result).run.run backend r.state r.trace := by
  change ((t.bind fun a ↦ .done (.ok a)).bind (ExceptT.bindCont k)).run backend c tr = _
  rw [Task.run_bind, Task.run_bind]
  rfl

theorem run_read_bind (f : Context → α) (k : α → ConsoleM β) :
    (read f >>= k).run backend c tr = (k (f c.context)).run backend c tr := rfl

theorem run_modifyDirectory (f : Directory → Directory) : (modifyDirectory f).run backend c tr = ⟨(), c.begun f, tr⟩ :=
  rfl

theorem run_directory : directory.run backend c tr = ⟨c.context.directory, c, tr⟩ := rfl

theorem overlooks_directory : OverlooksSignOuts Context.directory := fun _ _ ↦ rfl

theorem fetchPage_leaves {π : Type} {part : Context → π} (hp : OverlooksSignOuts part) (params : ListParams) :
    Leaves part (fetchPage params).run := by
  refine (read_leaves _).lift.except_bind fun routes ↦ ?_
  split
  · exact .done _
  · exact (sendEnvelope_leaves hp _ "GET" _ .empty).except_bind fun v ↦ .done _

theorem noted_run (backend : Backend) (c : Console) (tr : List Exchange) (outcome : Except ClientError α)
    (success : α → Directory → Directory) :
    let r := (noted outcome success).run.run backend c tr
    r.result = outcome ∧ r.state.context.directory = match outcome with
      | .ok a => { success a c.context.directory with loading := false }
      | .error e => c.context.directory.failing e := by
  cases outcome <;> exact ⟨rfl, rfl⟩

def listed (outcome : Except ClientError UserPage) (params : ListParams) (d : Directory) : Directory :=
  match outcome with
  | .ok page => { d with page := some page, loading := false, error := none, lastParams := params }
  | .error e => { d with loading := false, error := some e.message, lastParams := params }

def listing (params : ListParams) (d : Directory) : Directory := { d.starting with lastParams := params }

theorem listUsers_run (params : ListParams) :
    (listUsers params).run.run backend c tr =
      let fetched := (fetchPage params).run.run backend (c.begun (listing params)) tr
      (noted fetched.result fun page d ↦ { d with page := some page }).run.run backend fetched.state
        fetched.trace := by
  rw [listUsers, run_sure_bind, run_sure_bind]
  rfl

/-- Listing users puts the page that it fetched in the place of the one before, or reports why there is none. -/
theorem listUsers_directory (params : ListParams) :
    let r := (listUsers params).run.run backend c tr
    r.state.context.directory = listed r.result params c.context.directory := by
  have hfetched := (fetchPage_leaves overlooks_directory params).run_eq backend (c.begun (listing params)) tr
  intro r
  have hr : r = _ := listUsers_run params
  generalize (fetchPage params).run.run backend (c.begun (listing params)) tr = fetched at hr hfetched
  obtain ⟨hresult, hdirectory⟩ := noted_run backend fetched.state fetched.trace fetched.result
    fun page d ↦ { d with page := some page }
  rw [hr, hresult, hdirectory, hfetched]
  cases fetched.result <;> rfl

def relisting (effect : Directory → Directory) : ConsoleM (Except ClientError UserPage) := do
  modifyDirectory effect
  let d ← directory
  (listUsers d.lastParams).run

/-- A change that was made: what the backend gave back with it, and what listing the users again came to once the
directory had taken over what the change means. -/
def Made (backend : Backend) (c : Console) (tr : List Exchange) (act : Action (Envelope Json))
    (effect : Option Json → Directory → Directory) (data : Option Json)
    (relisted : Except ClientError UserPage) : Prop :=
  let made := act.run.run backend c tr
  ∃ v, made.result = .ok v ∧ v.data = data ∧
    ((relisting (effect data)).run backend made.state made.trace).result = relisted

/-- A change makes the directory forget the last error. It touches nothing else there until it is made. -/
theorem change_directory (method url fallback : String) (body : Body) :
    ((change method url body fallback).run.run backend c tr).state.context.directory =
      c.context.directory.starting := by
  have hleaves : Leaves Context.directory (do
      let envelope ← sendEnvelope Decoder.any method url body
      if envelope.success then return envelope
      throw (.rejected (messageOr fallback envelope.message)) : Action (Envelope Json)).run := by
    refine (sendEnvelope_leaves overlooks_directory _ _ _ _).except_bind fun v ↦ ?_
    split
    · exact .done _
    · exact .done _
  rw [change, modifyDirectory, run_sure_bind]
  exact hleaves.run_eq backend _ tr

variable {act : Action (Envelope Json)} {effect : Option Json → Directory → Directory}

theorem relisting_run (f : Directory → Directory) :
    (relisting f).run backend c tr =
      (listUsers (f c.context.directory).lastParams).run.run backend (c.begun f) tr := by
  change ((modifyDirectory f).bind fun _ ↦ directory.bind fun d ↦ (listUsers d.lastParams).run).run backend c tr = _
  rw [Task.run_bind, Task.run_bind, run_modifyDirectory, run_directory]
  rfl

theorem relisting_directory (backend : Backend) (c : Console) (tr : List Exchange) (f : Directory → Directory) :
    let r := (relisting f).run backend c tr
    r.state.context.directory =
      listed r.result (f c.context.directory).lastParams (f c.context.directory) := by
  rw [relisting_run]
  exact listUsers_directory _

/-- A change that was made is taken over, and nothing that comes of listing again shows in the outcome. -/
theorem mutate_eq : mutate act effect = act.run.bind fun
    | .ok v => (relisting (effect v.data)).bind fun _ ↦ .done (.succeeded v.message)
    | .error e => (modifyDirectory (Directory.failing e)).bind fun _ ↦ .done (.failed e) := by
  rw [mutate, Task.bind_eq]
  refine congrArg act.run.bind (funext fun r ↦ ?_)
  cases r with
  | ok v => simp only [relisting, listAgain, Task.bind_eq, Task.pure_eq, Task.bind_assoc, Task.done_bind]
  | error e => rfl

theorem exists_made (h : ((mutate act effect).run backend c tr).result.success = true) :
    ∃ data relisted, Made backend c tr act effect data relisted ∧
      ((mutate act effect).run backend c tr).state.context.directory =
       let d := effect data (act.run.run backend c tr).state.context.directory
       listed relisted d.lastParams d := by
  rw [mutate_eq, Task.run_bind] at h ⊢
  unfold Made
  generalize act.run.run backend c tr = made at h ⊢
  obtain ⟨result, c', tr'⟩ := made
  cases result with
  | error e => cases h
  | ok v =>
    have hdirectory := relisting_directory backend c' tr' (effect v.data)
    rw [Task.run_bind]
    generalize hlisted : (relisting (effect v.data)).run backend c' tr' = listing at hdirectory ⊢
    exact ⟨v.data, listing.result, ⟨v, rfl, rfl, congrArg Task.Run.result hlisted⟩, hdirectory⟩

end Console

namespace Directory

variable {id : Id .user} {data : Option Json} {relisted : Except ClientError UserPage} {before after : Directory}

/-- A directory before and after the user `id` was updated with what the backend gave back. Only the copies of that
user change, unless the users could be listed again. A copy keeps its identifier, or takes the one that was given
back. -/
structure Updated (id : Id .user) (data : Option Json) (relisted : Except ClientError UserPage)
    (before after : Directory) : Prop where
  selected : after.selected = before.selected.map (AdminUser.takeOver id data)
  fetched : ∀ page, relisted = .ok page → after.page = some page
  kept : ∀ e, relisted = .error e →
    after.page = before.page.map fun p ↦ { p with users := p.users.map (AdminUser.takeOver id data) }
  length : ∀ e, relisted = .error e → after.users.length = before.users.length
  ids : ∀ e, relisted = .error e → (∀ j, ¬ Renames data id j) →
    after.users.map AdminUser.id = before.users.map AdminUser.id
  renamed : ∀ e, relisted = .error e →
    List.Forall₂ (fun u w ↦ w.id = u.id ∨ u.id = id ∧ Renames data id w.id) before.users after.users

/-- A directory before and after the user `id` was deleted. -/
structure Deleted (id : Id .user) (relisted : Except ClientError UserPage) (before after : Directory) : Prop where
  selected : after.selected = before.selected.filter fun u ↦ u.id ≠ id
  fetched : ∀ page, relisted = .ok page → after.page = some page
  kept : ∀ e, relisted = .error e →
    after.page = before.page.map fun p ↦ { p with users := p.users.filter fun u ↦ u.id ≠ id }

theorem users_mapPage (f : AdminUser → AdminUser)
    (h : after.page = before.page.map fun p ↦ { p with users := p.users.map f }) : after.users = before.users.map f := by
  rw [users, users, h]
  cases before.page <;> rfl

theorem updated_of_selected_of_page (hs : after.selected = before.selected.map (AdminUser.takeOver id data))
    (hf : ∀ page, relisted = .ok page → after.page = some page)
    (hk : ∀ e, relisted = .error e →
      after.page = before.page.map fun p ↦ { p with users := p.users.map (AdminUser.takeOver id data) }) :
    before.Updated id data relisted after := by
  have husers {e : ClientError} (he : relisted = .error e) :
      after.users = before.users.map (AdminUser.takeOver id data) := users_mapPage _ (hk e he)
  constructor
  case selected => exact hs
  case fetched => exact hf
  case kept => exact hk
  case length => exact fun e he ↦ by rw [husers he, List.length_map]
  case ids =>
    intro e he h
    rw [husers he, List.map_map]
    exact List.map_congr_left fun u _ ↦ u.id_takeOver_of_not_renames h
  case renamed =>
    intro e he
    rw [husers he]
    exact List.forall₂_map_right_iff.mpr (List.forall₂_same.mpr fun u _ ↦ u.id_takeOver id data)

theorem updated_listed (id : Id .user) (data : Option Json) (relisted : Except ClientError UserPage)
    (before : Directory) :
    let d := before.starting.patched id data
    before.Updated id data relisted (Console.listed relisted d.lastParams d) := by
  intro d
  have hd : d = _ := patched_eq id data before.starting
  rw [hd]
  refine updated_of_selected_of_page ?_ ?_ ?_
  · cases relisted <;> rfl
  · rintro page rfl
    rfl
  · rintro e rfl
    rfl

theorem deleted_listed (id : Id .user) (relisted : Except ClientError UserPage) (before : Directory) :
    let d := before.starting.dropUser id
    before.Deleted id relisted (Console.listed relisted d.lastParams d) := by
  intro d
  constructor
  case selected => cases relisted <;> rfl
  case fetched =>
    rintro page rfl
    rfl
  case kept =>
    rintro e rfl
    rfl

end Directory

namespace Console

variable {backend : Backend} {c : Console} {tr : List Exchange}

theorem updateUser_run (id : Id .user) (form : Multipart) :
    (updateUser id form).run backend c tr =
      (mutate (change "POST" c.context.routes.editUser (.multipart form) "Failed to update user")
        (Directory.patched id)).run backend c tr := by
  rw [updateUser, run_read_bind]

theorem deleteUser_run (id : Id .user) (reason : Option String) :
    (deleteUser id reason).run backend c tr =
      (mutate (change "DELETE" c.context.routes.deleteUser (.json (deleteBody id reason)) "Failed to delete user")
        fun _ ↦ Directory.dropUser id).run backend c tr := by
  rw [deleteUser, run_read_bind]

/-- A change of a user that succeeds touches no other user in the cached copies, whatever the backend gave back. The
selected user is changed or dropped just if it is the one. If the users cannot be listed again, so are the copies on
the page, in their order; if they can, the page is the one fetched. An update may leave a copy with another
identifier, but only one that the backend gave back for it. -/
theorem mutation_touches_own_record (backend : Backend) (c : Console) (tr : List Exchange) (id : Id .user)
    (form : Multipart) (reason : Option String) :
    let before := c.context.directory
    let updated := (updateUser id form).run backend c tr
    let deleted := (deleteUser id reason).run backend c tr
    (updated.result.success = true → ∃ data relisted,
      Made backend c tr (change "POST" c.context.routes.editUser (.multipart form) "Failed to update user")
        (Directory.patched id) data relisted ∧
      before.Updated id data relisted updated.state.context.directory) ∧
    (deleted.result.success = true → ∃ data relisted,
      Made backend c tr (change "DELETE" c.context.routes.deleteUser (.json (deleteBody id reason))
        "Failed to delete user") (fun _ ↦ Directory.dropUser id) data relisted ∧
      before.Deleted id relisted deleted.state.context.directory) := by
  intro before updated deleted
  have hupdated : updated = _ := updateUser_run id form
  have hdeleted : deleted = _ := deleteUser_run id reason
  rw [hupdated, hdeleted]
  refine ⟨fun h ↦ ?_, fun h ↦ ?_⟩
  · obtain ⟨data, relisted, hmade, hafter⟩ := exists_made h
    rw [change_directory] at hafter
    refine ⟨data, relisted, hmade, ?_⟩
    rw [hafter]
    exact Directory.updated_listed id data relisted before
  · obtain ⟨data, relisted, hmade, hafter⟩ := exists_made h
    rw [change_directory] at hafter
    refine ⟨data, relisted, hmade, ?_⟩
    rw [hafter]
    exact Directory.deleted_listed id relisted before

def renamingBackend : Backend := .ofFunction fun r ↦
  if r.url.path = "/admin/list" then none
  else some ⟨200,
    "\x7b\"success\":true,\"message\":\"\",\"data\":\x7b\"_id\":\"u2\",\"firstName\":\"Augusta\"\x7d\x7d".toUTF8.data.toList⟩

def listedAda : AdminUser := ⟨⟨"u1"⟩, "Ada", "", "", "", "", none, none, .active, none, none, none⟩

def listedGrace : AdminUser := ⟨⟨"u2"⟩, "Grace", "", "", "", "", none, none, .active, none, none, none⟩

def ofTwoUsers : Console :=
  let host : Host := ⟨.empty .memory, ⟨0⟩, fun _ ↦ ⟨List.replicate 32 (Fin.last 15), rfl⟩, 0⟩
  let page : UserPage := ⟨[listedAda, listedGrace], ⟨1, 1, 2⟩⟩
  let directory : Directory := { Directory.fresh with page := some page, selected := some listedAda }
  ⟨.blank host, { Context.fresh (.ofBase "http://h") "host" with directory }⟩

def formOfAda : Multipart := (UserForm.ofUser listedAda).editSubmission listedAda.id

theorem update_of_two_succeeds :
    ((updateUser listedAda.id formOfAda).run renamingBackend ofTwoUsers []).result.success = true := by
  decide +kernel

theorem deletion_of_two_succeeds :
    ((deleteUser listedAda.id none).run renamingBackend ofTwoUsers []).result.success = true := by
  decide +kernel

/-- One of two users is updated or deleted. -/
theorem mutation_touches_own_record_of_two :
    (((updateUser listedAda.id formOfAda).run renamingBackend ofTwoUsers []).result.success = true ∧
      ∃ data relisted, ofTwoUsers.context.directory.Updated listedAda.id data relisted
        ((updateUser listedAda.id formOfAda).run renamingBackend ofTwoUsers []).state.context.directory) ∧
    (((deleteUser listedAda.id none).run renamingBackend ofTwoUsers []).result.success = true ∧
      ∃ relisted, ofTwoUsers.context.directory.Deleted listedAda.id relisted
        ((deleteUser listedAda.id none).run renamingBackend ofTwoUsers []).state.context.directory) := by
  obtain ⟨hupdate, hdelete⟩ := mutation_touches_own_record renamingBackend ofTwoUsers [] listedAda.id formOfAda none
  obtain ⟨data, relisted, -, hu⟩ := hupdate update_of_two_succeeds
  obtain ⟨-, listed, -, hd⟩ := hdelete deletion_of_two_succeeds
  exact ⟨⟨update_of_two_succeeds, data, relisted, hu⟩, deletion_of_two_succeeds, listed, hd⟩

/-- An update may make a copy of its user the copy of another one, and then the page has that one twice. -/
theorem updateUser_renames :
    ((updateUser listedAda.id formOfAda).run renamingBackend ofTwoUsers []).result.success = true ∧
      (∃ data e, Made renamingBackend ofTwoUsers []
        (change "POST" ofTwoUsers.context.routes.editUser (.multipart formOfAda) "Failed to update user")
        (Directory.patched listedAda.id) data (.error e)) ∧
      ofTwoUsers.context.directory.users.map AdminUser.id = [⟨"u1"⟩, ⟨"u2"⟩] ∧
      ((updateUser listedAda.id formOfAda).run renamingBackend ofTwoUsers []).state.context.directory.users.map
        AdminUser.id = [⟨"u2"⟩, ⟨"u2"⟩] := by
  have herror : ((updateUser listedAda.id formOfAda).run renamingBackend ofTwoUsers
      []).state.context.directory.error.isSome := by decide +kernel
  refine ⟨update_of_two_succeeds, ?_, rfl, by decide +kernel⟩
  have hsuccess := update_of_two_succeeds
  rw [updateUser_run] at hsuccess herror
  obtain ⟨data, relisted, hmade, hafter⟩ := exists_made hsuccess
  cases relisted with
  | ok page =>
    rw [hafter] at herror
    cases herror
  | error e => exact ⟨data, e, hmade⟩

end Console

end Backoffice
