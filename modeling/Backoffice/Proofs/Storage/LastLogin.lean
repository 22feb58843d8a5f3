import Mathlib.Logic.Relation
import Backoffice.Proofs.Account.Device
import Backoffice.Proofs.Storage.Contents

namespace Backoffice.Profile

def SameSession (p' p : Profile) : Prop := p'.session = p.session

instance : IsPreorder Profile SameSession where
  refl _ := rfl
  trans _ _ _ h h' := Eq.trans h h'

theorem setCookie_sameSession (name value : String) (expiry : Option Time.Instant) :
    Along SameSession (setCookie name value expiry).run := by
  cases expiry with
  | some t => exact .andThen (fun _ ↦ rfl) fun _ _ ↦ rfl
  | none => exact .andThen (fun _ ↦ rfl) fun _ _ ↦ rfl

theorem sameSession_kept : KeptByWrites SameSession where
  get _ _ := rfl
  remove _ _ := rfl
  dropSessionCookie _ _ := rfl
  setCookie := setCookie_sameSession
  localSet _ _ _ := rfl
  issueDeviceId _ := rfl

/-- An access that does not write under a key of the session store leaves what is there. -/
theorem get?_session_access {a : Access} {key : String} (h : ¬ a.Writes (.session key)) (p : Profile) :
    (access a p).2.session.get? key = p.session.get? key := by
  have spares (hs : Along SameSession (access a).run) :
      (access a p).2.session.get? key = p.session.get? key := congrArg (Table.get? key) (hs p)
  have answers {act : ProfileM Unit} (hs : Along SameSession act.run) :
      Along SameSession (do act; return none : ProfileM (Option String)).run := hs.andThen fun _ ↦ .pure _
  cases a with
  | setCookie name value expiry => exact spares (answers (sameSession_kept.setCookie name value expiry))
  | cookie name => exact spares (sameSession_kept.cookie name)
  | removeCookie name => exact spares (answers (sameSession_kept.removeCookie name))
  | localGet k => rfl
  | localSet k value => exact spares (answers (sameSession_kept.localSet k value))
  | localRemove k => exact spares (answers (sameSession_kept.remove (localKey k)))
  | sessionGet k => rfl
  | sessionSet k value =>
    have hk : key ≠ k := fun he ↦ h (congrArg Place.session he)
    exact (Table.get?_put _ _ _ _).trans (if_neg hk)
  | sessionRemove k =>
    have hk : key ≠ k := fun he ↦ h (congrArg Place.session he)
    exact (Table.get?_erase _ _ _).trans (if_neg hk)
  | reopen => exact absurd trivial h

inductive Deed where
  | access (a : Access)
  | setCredential (tokens : TokenPair) (remember : Bool) (payload : Option LoginPayload)
  | replaceTokens (tokens : TokenPair)
  | credential
  | clearCredential
  | clearRemembered
  | rememberMe
  | savedEmail
  | lastLogin
  | deviceId

namespace Deed

def after : Deed → Profile → Profile
  | access a, p => (Profile.access a p).2
  | setCredential tokens remember payload, p => (Profile.setCredential tokens remember payload p).2
  | replaceTokens tokens, p => (Profile.replaceTokens tokens p).2
  | credential, p => (Profile.credential p).2
  | clearCredential, p => (Profile.clearCredential p).2
  | clearRemembered, p => (Profile.clearRemembered p).2
  | rememberMe, p => (Profile.rememberMe p).2
  | savedEmail, p => (Profile.savedEmail p).2
  | lastLogin, p => (Profile.lastLogin p).2
  | deviceId, p => (Profile.deviceId p).2

/-- A login with a payload, forgetting what is remembered, opening again, or writing by hand under the key of the
kept login. -/
def Resets : Deed → Prop
  | access a => a.Writes (.session loginKey)
  | setCredential _ _ payload => payload.isSome
  | clearRemembered => True
  | _ => False

theorem get?_loginKey_after {d : Deed} (h : ¬ d.Resets) (p : Profile) :
    (d.after p).session.get? loginKey = p.session.get? loginKey := by
  cases d with
  | access a => exact get?_session_access h p
  | setCredential tokens remember payload =>
    cases payload with
    | some payload => exact absurd rfl h
    | none => exact congrArg _ (sameSession_kept.setCredential tokens remember none nofun p)
  | replaceTokens tokens => exact congrArg _ (sameSession_kept.replaceTokens tokens p)
  | credential => exact congrArg _ (sameSession_kept.credential p)
  | clearCredential => exact congrArg _ (sameSession_kept.clearCredential p)
  | clearRemembered => exact absurd trivial h
  | rememberMe => exact congrArg _ (sameSession_kept.rememberMe p)
  | savedEmail => exact congrArg _ (sameSession_kept.savedEmail p)
  | lastLogin => rfl
  | deviceId => exact congrArg _ (sameSession_kept.deviceId p)

end Deed

/-- One step of the life of a profile that does not reset the kept login: a deed, or any change of the host, where
time passes, another client writes, or the store begins to refuse. -/
inductive Passes : Profile → Profile → Prop
  | deed {p : Profile} (d : Deed) (h : ¬ d.Resets) : Passes p (d.after p)
  | host {p : Profile} (host : Host) : Passes p { p with host }

theorem Passes.get?_loginKey {p p' : Profile} (h : Passes p p') :
    p'.session.get? loginKey = p.session.get? loginKey := by
  cases h with
  | deed d h => exact Deed.get?_loginKey_after h p
  | host host => rfl

theorem get?_loginKey_of_passes {p q : Profile} (h : Relation.ReflTransGen Passes p q) :
    q.session.get? loginKey = p.session.get? loginKey := by
  induction h with
  | refl => rfl
  | tail _ hs ih => exact hs.get?_loginKey.trans ih

variable {p p' q : Profile} {tokens : TokenPair} {remember : Bool} {payload : LoginPayload}

/-- A login that succeeds leaves the copy of its payload. -/
theorem get?_loginKey_of_setCredential (h : setCredential tokens remember (some payload) p = (.ok (), p')) :
    p'.session.get? loginKey = some payload.toStored.write := by
  obtain ⟨⟨⟩, p₁, -, h⟩ := bind_eq_ok h
  obtain ⟨⟨⟩, p₂, -, h⟩ := bind_eq_ok h
  obtain ⟨⟨⟩, p₃, h₃, h⟩ := bind_eq_ok h
  cases h₃
  have hs : p'.session = p₂.session.put loginKey payload.toStored.write := by
    cases remember with
    | true => exact (congrArg (·.2.session) h).symm
    | false => exact (congrArg (·.2.session) h).symm
  rw [hs, Table.get?_put, if_pos rfl]

/-- After a login that succeeds, the kept login is the email and the device of its payload until something resets
it, and the kept text is an object without a password. -/
theorem lastLogin_of_setCredential (h : setCredential tokens remember (some payload) p = (.ok (), p'))
    (hq : Relation.ReflTransGen Passes p' q) :
    lastLogin q = (some ⟨payload.email, payload.device⟩, q) ∧
      ∃ text members, q.session.get? loginKey = some text ∧ Json.Reader.read text = (.obj members, true) ∧
        ∀ m ∈ members, m.1 ≠ some "password" := by
  have hkept : q.session.get? loginKey = some payload.toStored.write :=
    (get?_loginKey_of_passes hq).trans (get?_loginKey_of_setCredential h)
  refine ⟨?_, _, _, hkept, payload.toStored.read_write, payload.toStored.forall_mem_ne_password⟩
  change ((q.session.get? loginKey).bind StoredLogin.read?, q) = _
  rw [hkept, Option.bind_some, StoredLogin.read?_write]
  rfl

/-- The tokens are refreshed, the store begins to refuse every call, and clearing the credential fails. The login is
read back all the same. -/
theorem lastLogin_of_setCredential_on_failing_store :
    let device : DeviceInfo := ⟨⟨List.replicate 32 7, rfl⟩, none, .mobile, "1.0 \"π\"", some "", none, some "\n"⟩
    let host : Host := ⟨.empty .memory, ⟨0⟩, fun _ ↦ device.deviceId, 0⟩
    let p := (setCredential ⟨"a1", none⟩ true (some ⟨"ada@example.com", "s3cret", device⟩) (blank host)).2
    let p' := (replaceTokens ⟨"a2", some "r2"⟩ p).2
    let durable : Durable := { p'.host.durable with refuses := fun _ _ ↦ true }
    let p'' : Profile := { p' with host := { p'.host with durable } }
    let q := (clearCredential p'').2
    (clearCredential p'').1.isOk = false ∧ lastLogin q = (some ⟨"ada@example.com", device⟩, q) ∧
      ∃ text members, q.session.get? loginKey = some text ∧ Json.Reader.read text = (.obj members, true) ∧
        ∀ m ∈ members, m.1 ≠ some "password" := by
  intro device host p p' durable p'' q
  have h : setCredential ⟨"a1", none⟩ true (some ⟨"ada@example.com", "s3cret", device⟩) (blank host) = (.ok (), p) :=
    Prod.ext (by decide +kernel) rfl
  have hq : Relation.ReflTransGen Passes p q :=
    .tail (.tail (.single (.deed (.replaceTokens ⟨"a2", some "r2"⟩) id)) (.host _)) (.deed .clearCredential id)
  exact ⟨by decide +kernel, lastLogin_of_setCredential h hq⟩

end Backoffice.Profile
