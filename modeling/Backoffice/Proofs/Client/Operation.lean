import Backoffice.Proofs.Client.Session
import Backoffice.Proofs.Client.Chores

namespace Backoffice

open Web (Request Response Body Multipart Outcome)

/-- What the user of a client can do: with its session, with requests, with lists, with users and with
the form that is open. `view` and `viewForm` stand for all that only reads. -/
inductive Operation : Type → Type 1 where
  | restart : Operation (Except ClientError SessionStatus)
  | login (email password : String) (remember : Bool) : Operation (Except ClientError Bool)
  | loginWith (payload : LoginPayload) (remember : Bool) : Operation Bool
  | logout : Operation (Except ClientError Unit)
  | signOut : Operation (Except ClientError Unit)
  | bootstrap : Operation SessionStatus
  | status : Operation SessionStatus
  | current : Operation (Option Session)
  | isAuthenticated : Operation Bool
  | fetchCurrentUser : Operation (Except ClientError Session)
  | request (method url : String) (body : Body) : Operation (Except ClientError Response)
  | sendEnvelope {α : Type} (dec : Decoder α) (method url : String) (body : Body) :
      Operation (Except ClientError (Envelope α))
  | postPublic (url : String) (body : Json) : Operation (Except ClientError Response)
  | countries : Operation (Except ClientError (List Country))
  | clients : Operation (Except ClientError (List ClientOption))
  | roles : Operation (Except ClientError (List Role))
  | invalidate (k : ReferenceKind) : Operation Unit
  | fetchClient (id : Id .client) : Operation (Except ClientError ClientOption)
  | fetchUnits (id : Id .client) : Operation (Except ClientError (List UnitOption))
  | clearUnits (id : Option (Id .client)) : Operation Unit
  | listUsers (params : ListParams) : Operation (Except ClientError UserPage)
  | fetchUser (id : Id .user) : Operation (Except ClientError AdminUser)
  | selectUser (u : Option AdminUser) : Operation Unit
  | addUser (form : Multipart) : Operation MutationOutcome
  | updateUser (id : Id .user) (form : Multipart) : Operation MutationOutcome
  | deleteUser (id : Id .user) (reason : Option String) : Operation MutationOutcome
  | openForm (mode : FormMode) : Operation (Except ClientError UserForm)
  | prepareForm : Operation (Option (Except ClientError Unit))
  | editForm (f : UserForm → UserForm) : Operation (Option Unit)
  | selectClient (id : Option (Id .client)) : Operation (Option (Except ClientError Unit))
  | selectCountry (value : String) : Operation (Option (Except DomainError UserForm))
  | submitForm : Operation (Option MutationOutcome)
  | view {α : Type} (f : Context → α) : Operation α
  | viewForm {α : Type} (f : Desk → α) : Operation (Option α)

namespace Operation

open Workspace (inCurrent inOpenForm)

def task : {α : Type} → Operation α → WorkspaceM α
  | _, restart => Workspace.restart.run
  | _, login email password remember => inCurrent (Console.login email password remember).run
  | _, loginWith payload remember => inCurrent (Console.loginWith payload remember)
  | _, logout => Workspace.logout.run
  | _, signOut => inCurrent Console.signOut.run
  | _, bootstrap => inCurrent Console.bootstrap
  | _, status => inCurrent Console.status
  | _, current => inCurrent Console.current
  | _, isAuthenticated => inCurrent Console.isAuthenticated
  | _, fetchCurrentUser => inCurrent Console.fetchCurrentUser.run
  | _, request method url body => inCurrent (Console.request method url body).run
  | _, sendEnvelope dec method url body => inCurrent (Console.sendEnvelope dec method url body).run
  | _, postPublic url body => inCurrent (Console.postPublic url body).run
  | _, countries => inCurrent ListSource.countries.ensure.run
  | _, clients => inCurrent ListSource.clients.ensure.run
  | _, roles => inCurrent ListSource.roles.ensure.run
  | _, invalidate k => inCurrent (Console.invalidate k)
  | _, fetchClient id => inCurrent (Console.fetchClient id).run
  | _, fetchUnits id => inCurrent (Console.fetchUnits id).run
  | _, clearUnits id => inCurrent (Console.clearUnits id)
  | _, listUsers params => inCurrent (Console.listUsers params).run
  | _, fetchUser id => inCurrent (Console.fetchUser id).run
  | _, selectUser u => inCurrent (Console.selectUser u)
  | _, addUser form => inCurrent (Console.addUser form)
  | _, updateUser id form => inCurrent (Console.updateUser id form)
  | _, deleteUser id reason => inCurrent (Console.deleteUser id reason)
  | _, openForm mode => (Workspace.openUserForm mode).run
  | _, prepareForm => inOpenForm Desk.prepare.run
  | _, editForm f => inOpenForm (Desk.modifyForm f)
  | _, selectClient id => inOpenForm (Desk.selectClient id).run
  | _, selectCountry value => inOpenForm (Desk.selectCountry value)
  | _, submitForm => inOpenForm Desk.submit
  | _, view f => inCurrent (Console.read f)
  | _, viewForm f => inOpenForm (Desk.read f)

inductive IsLogin : {α : Type} → Operation α → Prop
  | login (email password : String) (remember : Bool) : IsLogin (.login email password remember)
  | loginWith (payload : LoginPayload) (remember : Bool) : IsLogin (.loginWith payload remember)

inductive IsSession : {α : Type} → Operation α → Prop
  | restart : IsSession .restart
  | login (email password : String) (remember : Bool) : IsSession (.login email password remember)
  | loginWith (payload : LoginPayload) (remember : Bool) : IsSession (.loginWith payload remember)
  | logout : IsSession .logout
  | signOut : IsSession .signOut
  | bootstrap : IsSession .bootstrap

inductive IsView : {α : Type} → Operation α → Prop
  | viewForm {α : Type} (f : Desk → α) : IsView (.viewForm f)

/-- The call that the user of a client spells out, where he does. -/
def call? : {α : Type} → Operation α → Option Call
  | _, request method url body => some ⟨method, url, none, body⟩
  | _, sendEnvelope _ method url body => some ⟨method, url, none, body⟩
  | _, postPublic url body => some ⟨"POST", url, none, .json body⟩
  | _, _ => none

/-- What an operation is that leaves the session alone: a chore of the current client or the open form, or the
opening of a form. -/
inductive Chore (ok : String → String → Body → Prop) : {α : Type} → WorkspaceM α → Prop
  | inCurrent {α : Type} {t : ConsoleM α} (h : Console.Chore ok t) : Chore ok (inCurrent t)
  | inOpenForm {α : Type} {t : DeskM α} (h : Desk.Chore ok t) : Chore ok (inOpenForm t)
  | openForm (mode : FormMode) : Chore ok (Workspace.openUserForm mode).run

theorem chore {ok : String → String → Body → Prop} (hp : Console.Plain ok) {α : Type} (op : Operation α)
    (hs : ¬op.IsSession) (hv : ¬op.IsView) (hc : ∀ c, op.call? = some c → ok c.method c.url c.body) :
    Chore ok op.task := by
  cases op with
  | restart => exact absurd .restart hs
  | login email password remember => exact absurd (.login _ _ _) hs
  | loginWith payload remember => exact absurd (.loginWith _ _) hs
  | logout => exact absurd .logout hs
  | signOut => exact absurd .signOut hs
  | bootstrap => exact absurd .bootstrap hs
  | status => exact .inCurrent Console.status_chore
  | current => exact .inCurrent Console.current_chore
  | isAuthenticated => exact .inCurrent Console.isAuthenticated_chore
  | fetchCurrentUser => exact .inCurrent (Console.fetchCurrentUser_chore hp)
  | request method url body => exact .inCurrent (.request (hc _ rfl))
  | sendEnvelope dec method url body => exact .inCurrent (Console.sendEnvelope_chore (hc _ rfl) dec)
  | postPublic url body => exact .inCurrent (.postPublic (hc _ rfl))
  | countries => exact .inCurrent (ListSource.countries_apart hp).ensure
  | clients => exact .inCurrent (ListSource.clients_apart hp).ensure
  | roles => exact .inCurrent (ListSource.roles_apart hp).ensure
  | invalidate k => exact .inCurrent (Console.invalidate_chore hp k)
  | fetchClient id => exact .inCurrent (Console.fetchVia_chore hp _ _ _)
  | fetchUnits id => exact .inCurrent (Console.fetchUnits_chore hp id)
  | clearUnits id => exact .inCurrent (Console.clearUnits_chore id)
  | listUsers params => exact .inCurrent (Console.listUsers_chore hp params)
  | fetchUser id => exact .inCurrent (Console.fetchUser_chore hp id)
  | selectUser u => exact .inCurrent (Console.modifyDirectory_chore _)
  | addUser form => exact .inCurrent (Console.addUser_chore hp form)
  | updateUser id form => exact .inCurrent (Console.updateUser_chore hp id form)
  | deleteUser id reason => exact .inCurrent (Console.deleteUser_chore hp id reason)
  | openForm mode => exact .openForm mode
  | prepareForm => exact .inOpenForm (Desk.prepare_chore hp)
  | editForm f => exact .inOpenForm (.modifyForm f)
  | selectClient id => exact .inOpenForm (Desk.selectClient_chore hp id)
  | selectCountry value => exact .inOpenForm (Desk.selectCountry_chore value)
  | submitForm => exact .inOpenForm (Desk.submit_chore hp)
  | view f => exact .inCurrent (.read f)
  | viewForm f => exact absurd (.viewForm f) hv

inductive SignsIn : {α : Type} → Operation α → α → Prop
  | login (email password : String) (remember : Bool) :
      SignsIn (.login email password remember) (.ok true)
  | loginWith (payload : LoginPayload) (remember : Bool) :
      SignsIn (.loginWith payload remember) true

end Operation

/-- What the sight of a profile becomes as the clock goes on: cookies may expire. -/
structure Sight.Ages (k : Clock) (s s' : Sight) : Prop where
  cookies : ∀ name, s'.cookies name = s.cookies name ∨ k = .expiring ∧ s'.cookies name = none
  kept : s'.kept = s.kept

namespace Sight.Ages

variable {s s' : Sight}

theorem filled {k : Clock} (hs : s.Ages k s')
    (hf : s.cookies Profile.accessCookie ≠ some ⟨"", none⟩) :
    s'.cookies Profile.accessCookie ≠ some ⟨"", none⟩ := by
  rcases hs.cookies Profile.accessCookie with h | ⟨-, h⟩
  · rwa [h]
  · rw [h]
    nofun

theorem spares {h : Holding} (hs : s.Ages h.clock s') : h.Spares s.credential s'.credential where
  of_none hn := by
    rw [Sight.credential, Option.map_eq_none_iff] at hn ⊢
    rcases hs.cookies Profile.accessCookie with hc | ⟨-, hc⟩
    · rwa [Sight.token, hc]
    · rw [Sight.token, hc]
      rfl
  eq_of_sparing hk := by
    have hc : s'.cookies = s.cookies := by
      funext name
      rcases hs.cookies name with hc | ⟨hk', -⟩
      · exact hc
      · cases hk.symm.trans hk'
    simp only [Sight.credential, Sight.token, Sight.remembers, hc, hs.kept]

end Sight.Ages

namespace Host

def Timely (h : Host) : Prop :=
  ∀ remember, ((ExpiryPolicy.ofRemember remember).expiresAt? h.now).isSome

/-- The clock goes on: no stored cookie comes to life again, and where it is sparing none expires. -/
structure Ticks (k : Clock) (h h' : Host) : Prop where
  only_now : h' = { h with now := h'.now }
  timely : h.Timely → h'.Timely
  live : ∀ key text c, h.durable.entries.get? key = some text → StoredCookie.read? text = some c →
    isLive (some c.expiresAt) h'.now → isLive (some c.expiresAt) h.now
  spares : k = .sparing → ∀ key text c, h.durable.entries.get? key = some text →
    StoredCookie.read? text = some c →
    isLive (some c.expiresAt) h.now → isLive (some c.expiresAt) h'.now

variable {k : Clock} {h h' h'' : Host}

theorem Ticks.refl (k : Clock) (h : Host) : h.Ticks k h :=
  ⟨rfl, id, fun _ _ _ _ _ ↦ id, fun _ _ _ _ _ _ ↦ id⟩

theorem Ticks.trans (ht : h.Ticks k h') (ht' : h'.Ticks k h'') : h.Ticks k h'' := by
  have he : h'.durable = h.durable := by rw [ht.only_now]
  refine ⟨?_, ht'.timely ∘ ht.timely, fun key text c hg hr hl ↦ ?_, fun hk key text c hg hr hl ↦ ?_⟩
  · rw [ht'.only_now, ht.only_now]
  · exact ht.live key text c hg hr (ht'.live key text c (he ▸ hg) hr hl)
  · exact ht'.spares hk key text c (he ▸ hg) hr (ht.spares hk key text c hg hr hl)

theorem Ticks.liveCookie (ht : h.Ticks k h') (key : String) :
    let entry := h.durable.entries.get? key
    Profile.liveCookie h'.now entry = Profile.liveCookie h.now entry ∨
      k = .expiring ∧ Profile.liveCookie h'.now entry = none := by
  intro entry
  cases he : h.durable.entries.get? key with
  | none => simp [entry, he]
  | some text =>
    cases hr : StoredCookie.read? text with
    | none => simp [entry, he, Profile.liveCookie, hr]
    | some c =>
      by_cases hl : isLive (some c.expiresAt) h'.now
      · have hl' := ht.live key text c he hr hl
        simp [entry, he, Profile.liveCookie, hr, hl, hl']
      · by_cases hn : isLive (some c.expiresAt) h.now
        · cases k with
          | sparing => exact absurd (ht.spares rfl key text c he hr hn) hl
          | expiring => simp [entry, he, Profile.liveCookie, hr, hl]
        · simp [entry, he, Profile.liveCookie, hr, hl, hn]

theorem Ticks.ages (ht : h.Ticks k h') (cookies session : Table) :
    (Profile.sight ⟨h, cookies, session⟩).Ages k (Profile.sight ⟨h', cookies, session⟩) := by
  have hd : h'.durable = h.durable := by rw [ht.only_now]
  refine ⟨fun name ↦ ?_, ?_⟩
  · simp only [Profile.sight, Profile.now, hd]
    cases cookies.get? name with
    | none => exact ht.liveCookie _
    | some v => exact .inl rfl
  · simp only [Profile.sight, hd]

end Host

namespace Workspace

variable {k : Clock} {w w' w'' : Workspace}

structure Ticks (k : Clock) (w w' : Workspace) : Prop where
  host : w.host.Ticks k w'.host
  only_host : w' = { w with host := w'.host }

theorem Ticks.refl (k : Clock) (w : Workspace) : w.Ticks k w := ⟨.refl k w.host, rfl⟩

theorem Ticks.trans (ht : w.Ticks k w') (ht' : w'.Ticks k w'') : w.Ticks k w'' where
  host := ht.host.trans ht'.host
  only_host := by rw [ht'.only_host, ht.only_host]

end Workspace

/-- A workspace with the exchanges so far, the latest first. -/
abbrev World := Workspace × List Exchange

def Delivery.outcome : Delivery → Outcome
  | atOnce o => o
  | after _ o => o

/-- Whether a network keeps the exchanges and leaves the workspace alone but for its clock. -/
def Network.Serves (k : Clock) (net : Network World) : Prop :=
  ∀ r w, w.1.Ticks k (net r w).2.1 ∧ (net r w).2.2 = ⟨r, (net r w).1.outcome⟩ :: w.2

theorem Backend.network_serves (k : Clock) (backend : Backend)
    (delay : List Exchange → Request → Option Nat) :
    (backend.network delay : Network World).Serves k := by
  intro r w
  refine ⟨.refl k _, ?_⟩
  simp only [Backend.network]
  cases delay w.2 r <;> rfl

/-- A task of a workspace comes to `a` in time and makes the world `w` into `w'`. -/
def WorkspaceM.Runs {α : Type} (net : Network World) (t : WorkspaceM α) (w : World) (a : α)
    (w' : World) : Prop :=
  ∃ events m, Machine.run net events t.logged w = (some a, m) ∧ m.state = w'

/-- The worlds that operations reach from the start of a client, over any store that refuses nothing,
one after the other. Each of them may meet another network. -/
inductive Reached (k : Clock) : World → Prop
  | start {host : Host} {config : Config} {hostName : String} {net : Network World}
      {status : SessionStatus} {w : World} :
      host.durable.Reliable → host.Timely → net.Serves k →
      WorkspaceM.Runs net (Workspace.start config hostName).run
        (.initial host config hostName, []) (.ok status) w →
      Reached k w
  | run {α : Type} {op : Operation α} {net : Network World} {a : α} {w w' : World} :
      Reached k w → net.Serves k → WorkspaceM.Runs net op.task w a w' → Reached k w'
  | tick {w : World} {s : Workspace} : Reached k w → w.1.Ticks k s → Reached k (s, w.2)

end Backoffice
