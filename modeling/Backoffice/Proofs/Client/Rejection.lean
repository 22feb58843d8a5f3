import Backoffice.Client.SignIn
import Backoffice.Client.Users
import Backoffice.Proofs.Client.Frame
import Backoffice.Proofs.Client.Request

namespace Backoffice

open Web (Request Response Body Multipart Url)

def Context.uncounted (c : Context) : Context := { c with signOuts := 0 }

structure ListSource.Lawful {α : Type} (s : ListSource α) : Prop where
  slot_put : ∀ f x, s.slot (s.put f x) = f
  put_put : ∀ f g x, s.put f (s.put g x) = s.put f x
  slot_uncounted : ∀ x : Context, s.slot x.uncounted = s.slot x
  put_uncounted : ∀ f x, (s.put f x).uncounted = s.put f x.uncounted

namespace UnitCache

theorem update_update (id : Id .client) (f g : ListState UnitOption → ListState UnitOption)
    (c : UnitCache) : update id g (update id f c) = update id (g ∘ f) c := by
  induction c with
  | nil => simp [update]
  | cons e rest ih =>
    obtain ⟨k, l⟩ := e
    simp only [update]
    split
    · next h => simp [update, h]
    · next h =>
      split
      · simp [update]
      · next hlt => simp [update, h, hlt, ih]

end UnitCache

namespace Console

variable {α β : Type}

/-- An answer that refuses, with its envelope. -/
structure Refuses (dec : Decoder α) (r : Response) (v : Envelope α) : Prop where
  isSuccess : r.isSuccess = true
  content : r.status ≠ noContent
  decodes : decodeBody (Envelope.decode dec) r = .ok v
  refused : v.success = false

/-- A request that is made in the state of a client and comes to an answer that refuses. -/
def Refused (backend : Backend) (c : Console) (tr : List Exchange) (dec : Decoder α) (method url : String)
    (body : Body) (v : Envelope α) : Prop :=
  ∃ r, ((request method url body).run.run backend c tr).result = .ok r ∧ Refuses dec r v

/-- A task that runs alone comes to `a` and leaves the client knowing `x`, but for the sign-outs counted. -/
def Settles (backend : Backend) (t : ConsoleM α) (c : Console) (tr : List Exchange) (a : α)
    (x : Context) : Prop :=
  ∃ c' tr', t.run backend c tr = ⟨a, c', tr'⟩ ∧ c'.context.uncounted = x

variable {backend : Backend} {c : Console} {tr : List Exchange} {x y : Context} {a : α} {b : β}

namespace Settles

theorem done (a : α) : Settles backend (.done a) c tr a c.context.uncounted := ⟨c, tr, rfl, rfl⟩

theorem bind {t : ConsoleM α} {f : α → ConsoleM β} (h : Settles backend t c tr a x)
    (hf : ∀ c' tr', c'.context.uncounted = x → Settles backend (f a) c' tr' b y) :
    Settles backend (t.bind f) c tr b y := by
  obtain ⟨c', tr', he, hx⟩ := h
  obtain ⟨c'', tr'', he', hy⟩ := hf c' tr' hx
  exact ⟨c'', tr'', by simp only [Task.run_bind, he, he'], hy⟩

theorem sure {t : ConsoleM α} (h : Settles backend t c tr a x) :
    Settles backend (sure t).run c tr (.ok a) x :=
  h.bind fun c' tr' hx ↦ by
    subst hx
    exact done _

theorem next {t : Action α} {f : α → Action β} {r : Except ClientError β}
    (h : Settles backend t.run c tr (.ok a) x)
    (hf : ∀ c' tr', c'.context.uncounted = x → Settles backend (f a).run c' tr' r y) :
    Settles backend (t >>= f).run c tr r y :=
  bind (f := ExceptT.bindCont f) h hf

end Settles

theorem Refuses.envelopeOf {dec : Decoder α} {r : Response} {v : Envelope α} (h : Refuses dec r v) :
    envelopeOf dec r = .ok v := by
  rw [Backoffice.envelopeOf, if_neg h.content, h.isSuccess, h.decodes]
  rfl

theorem Refused.settles {dec : Decoder α} {method url : String} {body : Body} {v : Envelope α}
    (h : Refused backend c tr dec method url body v) :
    Settles backend (sendEnvelope dec method url body).run c tr (.ok v) c.context.uncounted := by
  obtain ⟨r, hr, hv⟩ := h
  have hs : OverlooksSignOuts Context.uncounted := fun _ _ ↦ rfl
  have hleaves := (request_leaves hs method url body).run_eq backend c tr
  cases hrun : (request method url body).run.run backend c tr with
  | mk result c' tr' =>
    rw [hrun] at hr hleaves
    obtain rfl : result = .ok r := hr
    refine Settles.next ⟨c', tr', hrun, hleaves⟩ fun c'' tr'' hx ↦ ?_
    rw [hv.envelopeOf, ← hx]
    exact .done _

theorem Refused.refused {dec : Decoder α} {method url : String} {body : Body} {v : Envelope α}
    (h : Refused backend c tr dec method url body v) : v.success = false := by
  obtain ⟨_, -, hr⟩ := h
  exact hr.refused

theorem Settles.throw (e : ClientError) :
    Settles backend (throw e : Action α).run c tr (.error e) c.context.uncounted := .done _

theorem settles_read {f : Context → α} {k : α → Action β} {r : Except ClientError β} :
    Settles backend (Console.sure (read f) >>= k).run c tr r x ↔
      Settles backend (k (f c.context)).run c tr r x := Iff.rfl

theorem settles_look {f : Context → α} {k : α → ConsoleM β} :
    Settles backend (read f >>= k) c tr b x ↔ Settles backend (k (f c.context)) c tr b x := Iff.rfl

theorem settles_modify {f : Context → Context} {k : Unit → Action β} {r : Except ClientError β} :
    Settles backend (Console.sure (modify f) >>= k).run c tr r x ↔
      Settles backend (k ()).run { c with context := f c.context } tr r x := Iff.rfl

theorem settles_acquire {g : Gate} {k : Unit → Action β} {r : Except ClientError β} :
    Settles backend (Console.sure (Task.acquire g) >>= k).run c tr r x ↔
      Settles backend (k ()).run c tr r x := Iff.rfl

theorem fetchVia_refused (route : Routes → String) {dec : Decoder α}
    {judge : Envelope α → Except ClientError β} {v : Envelope α} {e : ClientError}
    (h : Refused backend c tr dec "GET" (route c.context.routes) .empty v) (he : judge v = .error e) :
    Settles backend (fetchVia route dec judge).run c tr (.error e) c.context.uncounted := by
  rw [fetchVia, settles_read]
  refine h.settles.next fun c' tr' hx ↦ ?_
  rw [he, ← hx]
  exact .throw e

theorem fetchCurrentUser_refused {v : Envelope AdminUser}
    (h : Refused backend c tr AdminUser.decode "GET" c.context.routes.me .empty v) :
    Settles backend fetchCurrentUser.run c tr (.error (.rejected v.message)) c.context.uncounted := by
  rw [fetchCurrentUser, settles_read]
  refine h.settles.next fun c' tr' hx ↦ ?_
  rw [Envelope.result, h.refused, ← hx]
  exact .throw _

def begun (f : Directory → Directory) (c : Console) : Console :=
  { c with context := { c.context with directory := f c.context.directory } }

def noting (e : ClientError) (x : Context) : Context :=
  { x with directory := { x.directory with loading := false, error := some e.message } }

theorem noted_error (hx : c.context.uncounted = x) (e : ClientError) (success : α → Directory → Directory) :
    Settles backend (noted (.error e) success).run c tr (.error e) (noting e x) := by
  subst hx
  exact ⟨_, tr, rfl, rfl⟩

theorem noted_ok (hx : c.context.uncounted = x) (a : α) (success : α → Directory → Directory) :
    Settles backend (noted (.ok a) success).run c tr (.ok a)
      { x with directory := { success a x.directory with loading := false } } := by
  subst hx
  exact ⟨_, tr, rfl, rfl⟩

theorem fetchUser_refused {i : Id .user} {v : Envelope AdminUser}
    (h : Refused backend (c.begun .starting) tr AdminUser.decode "GET" (c.context.routes.user i) .empty v) :
    let e := ClientError.rejected (messageOr "Failed to fetch user" v.message)
    Settles backend (fetchUser i).run c tr (.error e) (noting e c.context.uncounted) := by
  intro e
  have hj : userOf v = .error e := by
    rw [userOf, h.refused]
    rfl
  rw [fetchUser, modifyDirectory, settles_modify]
  exact (fetchVia_refused (·.user i) h hj).sure.next fun c' tr' hx ↦ noted_error hx e _

theorem mutate_refused {method url fallback : String} {body : Body} {v : Envelope Json}
    {onSuccess : Option Json → Directory → Directory}
    (h : Refused backend (c.begun .starting) tr Decoder.any method url body v) :
    let e := ClientError.rejected (messageOr fallback v.message)
    Settles backend (mutate (change method url body fallback) onSuccess) c tr (.failed e)
      (noting e c.context.uncounted) := by
  intro e
  have hc : Settles backend (change method url body fallback).run c tr (.error e)
      (c.begun .starting).context.uncounted := by
    rw [change, modifyDirectory, settles_modify]
    refine h.settles.next fun c' tr' hx ↦ ?_
    rw [h.refused, ← hx]
    exact .throw e
  refine hc.bind fun c' tr' hx ↦ ?_
  exact ⟨_, tr', rfl, congrArg (noting e) hx⟩

theorem listUsers_refused {params : ListParams} {url : Url} {v : Envelope (List AdminUser)}
    (hu : Url.parse? c.context.routes.users = some url)
    (h : Refused backend (c.begun fun d ↦ { d.starting with lastParams := params }) tr
      (Decoder.list AdminUser.decode) "GET" (url.withForm params.fields).write .empty v) :
    Settles backend (listUsers params).run c tr (.ok (.ofEnvelope v))
      { c.context.uncounted with directory := { c.context.directory with
        page := some (.ofEnvelope v), loading := false, error := none, lastParams := params } } := by
  let begun := c.begun fun d ↦ { d.starting with lastParams := params }
  have hu : Url.parse? begun.context.routes.users = some url := hu
  have hf : Settles backend (fetchPage params).run begun tr (.ok (.ofEnvelope v))
      begun.context.uncounted := by
    rw [fetchPage, settles_read, hu]
    refine h.settles.next fun c' tr' hx ↦ ?_
    rw [← hx]
    exact .done _
  rw [listUsers, modifyDirectory, settles_modify]
  exact hf.sure.next fun c' tr' hx ↦ noted_ok hx _ _

/-- A list that is not loaded yet is fetched when it is asked for. If that fails it has the error, and it is
as it was but for that. -/
theorem ensure_refused {s : ListSource α} (hs : s.Lawful) {e : ClientError}
    (hl : (s.slot c.context).list.loaded = false)
    (h : Settles backend s.fetch.run { c with context := s.put (s.slot c.context).loading c.context } tr
      (.error e) (s.put (s.slot c.context).loading c.context).uncounted) :
    Settles backend s.ensure.run c tr (.error e)
      (s.put ((s.slot c.context).loading.failed e) c.context.uncounted) := by
  have hload : Settles backend s.load.run c tr (.error e)
      (s.put ((s.slot c.context).loading.failed e) c.context.uncounted) := by
    rw [ListSource.load, ListSource.modify, settles_modify]
    refine h.sure.next fun c' tr' hx ↦ ⟨_, tr', rfl, ?_⟩
    have hslot : s.slot c'.context = (s.slot c.context).loading := by
      rw [← hs.slot_uncounted, hx, hs.slot_uncounted, hs.slot_put]
    change (s.put (Slot.failed e (s.slot c'.context)) c'.context).uncounted = _
    rw [hslot, hs.put_uncounted, hx, hs.put_uncounted, hs.put_put]
  have hshared : (s.slot c.context).shared? (s.slot c.context).attempts = none := by
    simp [Slot.shared?, hl]
  have hguarded : Settles backend (ListSource.ensure.sharedOrLoaded s (s.slot c.context).attempts).run c tr
      (.error e) (s.put ((s.slot c.context).loading.failed e) c.context.uncounted) := by
    rw [ListSource.ensure.sharedOrLoaded, settles_read, hshared]
    exact hload
  rw [ListSource.ensure, settles_read, hl]
  simp only [Bool.false_eq_true, if_false]
  rw [settles_acquire]
  exact hguarded.sure.next fun c' tr' hx ↦ ⟨c', tr', rfl, hx⟩

theorem fetchUnits_refused {i : Id .client} {v : Envelope (List UnitOption)} (hi : i.isBlank = false)
    (h : Refused backend
      { c with context := { c.context with
        units := c.context.units.update i fun l ↦ { l with loading := true, error := none } } } tr
      (Decoder.list UnitOption.decode) "GET" (c.context.routes.businessUnits i) .empty v) :
    Settles backend (fetchUnits i).run c tr (.ok (v.data.getD []))
      { c.context.uncounted with
        units := c.context.units.update i fun _ ↦ ⟨v.data.getD [], false, none, true⟩ } := by
  rw [fetchUnits, hi, modifyUnits]
  simp only [Bool.false_eq_true, if_false]
  rw [settles_modify, settles_read]
  refine h.settles.sure.next fun c' tr' hx ↦ ⟨_, tr', rfl, ?_⟩
  let keep (l : ListState UnitOption) : ListState UnitOption :=
    { l with items := v.data.getD [], loading := false, loaded := true }
  have hk : ({ c'.context with units := c'.context.units.update i keep } : Context).uncounted = _ :=
    congrArg (fun y : Context ↦ { y with units := y.units.update i keep }) hx
  exact hk.trans (congrArg (fun u ↦ { c.context.uncounted with units := u })
    (UnitCache.update_update i _ keep _))

theorem itemsIfSuccess_refused {fallback : String} {v : Envelope (List α)} (h : v.success = false) :
    itemsIfSuccess fallback v = .error (.rejected (messageOr fallback v.message)) := by
  rw [itemsIfSuccess, h]
  rfl

theorem lawful_countries : ListSource.countries.Lawful :=
  ⟨fun _ _ ↦ rfl, fun _ _ _ ↦ rfl, fun _ ↦ rfl, fun _ _ ↦ rfl⟩

theorem lawful_roles : ListSource.roles.Lawful :=
  ⟨fun _ _ ↦ rfl, fun _ _ _ ↦ rfl, fun _ ↦ rfl, fun _ _ ↦ rfl⟩

def unfetched (e : ClientError) (s : Slot α) : Slot α :=
  ⟨{ s.list with loading := false, error := some e }, s.attempts + 1⟩

/-- What a refusal comes to, for the calls that send a request, in any state and with any backend. A user
that is fetched, the three changes of users, the lists of countries and of roles and the signed-in user fail
with the message of the backend, if it is not blank, and leave what is cached as it was. Listing users and
fetching business units succeed: what the refusal carries, if anything, takes the place of the page and of
the units that were cached. -/
theorem calls_refused (backend : Backend) (c : Console) (tr : List Exchange) :
    let rejected (fallback message : String) :=
      ClientError.rejected (if message.toList.all Text.isBlank then fallback else message)
    let begun := c.begun .starting
    let known := c.context.uncounted
    (∀ i v, Refused backend begun tr AdminUser.decode "GET" (c.context.routes.user i) .empty v →
      let e := rejected "Failed to fetch user" v.message
      Settles backend (fetchUser i).run c tr (.error e) (noting e known)) ∧
    (∀ form v, Refused backend begun tr Decoder.any "POST" c.context.routes.addUser (.multipart form) v →
      let e := rejected "Failed to add user" v.message
      Settles backend (addUser form) c tr (.failed e) (noting e known)) ∧
    (∀ i form v, Refused backend begun tr Decoder.any "POST" c.context.routes.editUser (.multipart form) v →
      let e := rejected "Failed to update user" v.message
      Settles backend (updateUser i form) c tr (.failed e) (noting e known)) ∧
    (∀ i reason v, Refused backend begun tr Decoder.any "DELETE" c.context.routes.deleteUser
        (.json (deleteBody i reason)) v →
      let e := rejected "Failed to delete user" v.message
      Settles backend (deleteUser i reason) c tr (.failed e) (noting e known)) ∧
    (∀ v, c.context.countries.list.loaded = false →
      Refused backend { c with context := { c.context with countries := c.context.countries.loading } } tr
        (Decoder.list Country.decode) "GET" c.context.routes.countries .empty v →
      let e := rejected "Failed to fetch countries" v.message
      Settles backend ListSource.countries.ensure.run c tr (.error e)
        { known with countries := unfetched e c.context.countries }) ∧
    (∀ v, c.context.roles.list.loaded = false →
      Refused backend { c with context := { c.context with roles := c.context.roles.loading } } tr
        (Decoder.list Role.decode) "GET" c.context.routes.roles .empty v →
      let e := rejected "Failed to fetch roles" v.message
      Settles backend ListSource.roles.ensure.run c tr (.error e)
        { known with roles := unfetched e c.context.roles }) ∧
    (∀ v, Refused backend c tr AdminUser.decode "GET" c.context.routes.me .empty v →
      Settles backend fetchCurrentUser.run c tr (.error (.rejected v.message)) known) ∧
    (∀ params url v, Url.parse? c.context.routes.users = some url →
      Refused backend (c.begun fun d ↦ { d.starting with lastParams := params }) tr
        (Decoder.list AdminUser.decode) "GET" (url.withForm params.fields).write .empty v →
      Settles backend (listUsers params).run c tr (.ok (.ofEnvelope v))
        { known with directory := { c.context.directory with
          page := some (.ofEnvelope v), loading := false, error := none, lastParams := params } }) ∧
    (∀ i v, i.isBlank = false →
      Refused backend
        { c with context := { c.context with
          units := c.context.units.update i fun l ↦ { l with loading := true, error := none } } } tr
        (Decoder.list UnitOption.decode) "GET" (c.context.routes.businessUnits i) .empty v →
      Settles backend (fetchUnits i).run c tr (.ok (v.data.getD []))
        { known with units := c.context.units.update i fun _ ↦ ⟨v.data.getD [], false, none, true⟩ }) := by
  intro rejected begun known
  refine ⟨fun i v h ↦ fetchUser_refused h, fun form v h ↦ ?_, fun i form v h ↦ ?_, fun i reason v h ↦ ?_,
    fun v hl h ↦ ?_, fun v hl h ↦ ?_, fun v h ↦ fetchCurrentUser_refused h,
    fun params url v hu h ↦ listUsers_refused hu h, fun i v hi h ↦ fetchUnits_refused hi h⟩
  · rw [addUser, settles_look]
    exact mutate_refused h
  · rw [updateUser, settles_look]
    exact mutate_refused h
  · rw [deleteUser, settles_look]
    exact mutate_refused h
  · refine ensure_refused lawful_countries hl ?_
    exact fetchVia_refused Routes.countries h (itemsIfSuccess_refused h.refused)
  · refine ensure_refused lawful_roles hl ?_
    exact fetchVia_refused Routes.roles h (itemsIfSuccess_refused h.refused)

def refusal : Response := ⟨200, "\x7b\"success\":false,\"message\":\"no access\"\x7d".toUTF8.data.toList⟩

def refusingBackend : Backend := .ofFunction fun _ ↦ some refusal

/-- A user who is asked for again is kept with the page, and the refusal is reported. When the users are
listed it is not, and the page is empty. -/
theorem calls_refused_of_no_access :
    let host : Host := ⟨.empty .memory, ⟨0⟩, fun _ ↦ ⟨List.replicate 32 0, rfl⟩, 0⟩
    let ada : AdminUser := ⟨⟨"u1"⟩, "Ada", "", "", "", "", none, none, .active, none, none, none⟩
    let d : Directory := { Directory.fresh with page := some ⟨[ada], ⟨1, 1, 1⟩⟩, selected := some ada }
    let c : Console := ⟨.blank host, { Context.fresh (.ofBase "http://h") "host" with directory := d }⟩
    (∃ x, Settles refusingBackend (fetchUser ada.id).run c [] (.error (.rejected "no access")) x ∧
      x.directory = { d with error := some "no access" }) ∧
    ∃ x, Settles refusingBackend (listUsers .none).run c [] (.ok .empty) x ∧
      x.directory = { d with page := some .empty } := by
  intro host ada d c
  have huser : Refuses AdminUser.decode refusal ⟨false, "no access", none, none⟩ :=
    ⟨by decide, by decide, eq_ok_of_toOption (by decide +kernel), rfl⟩
  have hlist : Refuses (Decoder.list AdminUser.decode) refusal ⟨false, "no access", none, none⟩ :=
    ⟨by decide, by decide, eq_ok_of_toOption (by decide +kernel), rfl⟩
  let url : Url := ⟨"http", some "h", none, "/admin/list", none⟩
  have hparsed : Url.parse? c.context.routes.users = some url := by decide +kernel
  have hasked : ((request "GET" (c.context.routes.user ada.id) .empty).run.run refusingBackend
      (c.begun .starting) []).result = .ok refusal := eq_ok_of_toOption (by decide +kernel)
  have hlisted : ((request "GET" (url.withForm ListParams.none.fields).write .empty).run.run refusingBackend
      (c.begun fun d ↦ { d.starting with lastParams := .none }) []).result = .ok refusal :=
    eq_ok_of_toOption (by decide +kernel)
  obtain ⟨hfetch, -, -, -, -, -, -, hlists, -⟩ := calls_refused refusingBackend c []
  exact ⟨⟨_, hfetch ada.id _ ⟨refusal, hasked, huser⟩, by decide⟩,
    _, hlists .none url _ hparsed ⟨refusal, hlisted, hlist⟩, by decide⟩

end Console

end Backoffice
