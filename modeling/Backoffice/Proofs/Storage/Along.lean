import Mathlib.Order.Defs.Unbundled
import Backoffice.Storage.Credential

namespace Backoffice.Profile

variable {α β : Type}

/-- What a first piece of work brings about is kept if the rest brings it about as well. -/
theorem bind_keeps {I : Profile → Prop} {act : ProfileM α} {f : α → ProfileM β} {p : Profile}
    (h : I (act p).2) (hf : ∀ a p', act p = (.ok a, p') → I (f a p').2) : I ((act >>= f) p).2 := by
  simp only [Bind.bind, ExceptT.bind, ExceptT.mk, StateT.bind]
  cases hr : act p with
  | mk r p' =>
    cases r with
    | ok a => exact hf a p' hr
    | error e =>
      rw [hr] at h
      exact h

def Along (R : Profile → Profile → Prop) (act : StateM Profile α) : Prop := ∀ p, R (act p).2 p

def Keeping (I : Profile → Prop) (p' p : Profile) : Prop := I p → I p'

instance (I : Profile → Prop) : IsPreorder Profile (Keeping I) where
  refl _ h := h
  trans _ _ _ h h' := h ∘ h'

variable {R : Profile → Profile → Prop}

theorem Along.get {f : Profile → ProfileM β} (hf : ∀ p, Along R (f p).run) :
    Along R (get >>= f : ProfileM β).run := fun p ↦ hf p p

variable [IsPreorder Profile R]

namespace Along

theorem pure (a : α) : Along R (Pure.pure a) := fun p ↦ refl_of R p

theorem bind {act : StateM Profile α} {f : α → StateM Profile β} (h : Along R act)
    (hf : ∀ a, Along R (f a)) : Along R (act >>= f) := fun p ↦ trans_of R (hf _ _) (h p)

theorem andThen {act : ProfileM α} {f : α → ProfileM β} (h : Along R act.run)
    (hf : ∀ a, Along R (f a).run) : Along R (act >>= f).run := by
  refine fun p ↦ bind_keeps (I := (R · p)) (h p) fun a p' he ↦ trans_of R (hf a p') ?_
  have hp := h p
  rwa [show act.run p = (.ok a, p') from he] at hp

theorem orElse (d : α) {act : ProfileM α} (h : Along R act.run) : Along R (orElse d act) := by
  refine h.bind fun r ↦ ?_
  cases r with
  | ok a => exact .pure _
  | error e => exact .pure _

end Along

structure KeptByRemovals (R : Profile → Profile → Prop) : Prop where
  get : ∀ key, Along R (durably (·.get key)).run
  remove : ∀ key, Along R (durably (·.remove key)).run
  dropSessionCookie : ∀ name, Along R (dropSessionCookie name).run

structure KeptByWrites (R : Profile → Profile → Prop) : Prop extends KeptByRemovals R where
  setCookie : ∀ name value expiry, Along R (setCookie name value expiry).run
  localSet : ∀ key value, Along R (localSet key value).run
  issueDeviceId : Along R issueDeviceId.run

namespace KeptByRemovals

variable (h : KeptByRemovals R)
include h

theorem removeCookie (name : String) : Along R (removeCookie name).run :=
  (h.dropSessionCookie name).andThen fun _ ↦ h.remove _

theorem cookie (name : String) : Along R (cookie name).run := by
  refine .get fun p ↦ ?_
  cases p.cookies.get? name with
  | some v => exact .pure _
  | none =>
    refine (h.get _).andThen fun entry ↦ ?_
    cases entry with
    | none => exact .pure _
    | some text =>
      simp only
      cases StoredCookie.read? text with
      | none => exact .pure _
      | some c =>
        refine .get fun p ↦ ?_
        split
        · exact .pure _
        · exact (h.remove _).andThen fun _ ↦ .pure _

theorem rememberMe : Along R rememberMe := .orElse _ ((h.get _).andThen fun _ ↦ .pure _)

theorem credential : Along R credential := by
  refine (Along.orElse none (h.cookie _)).bind fun access ↦ ?_
  cases nonempty? access with
  | none => exact .pure _
  | some access =>
    exact (Along.orElse none (h.cookie _)).bind fun _ ↦ h.rememberMe.bind fun _ ↦ .pure _

theorem clearCredential : Along R clearCredential.run :=
  (h.removeCookie _).andThen fun _ ↦ (h.removeCookie _).andThen fun _ ↦ h.remove _

theorem savedEmail : Along R savedEmail := (Along.orElse none (h.get _)).bind fun _ ↦ .pure _

end KeptByRemovals

namespace KeptByWrites

variable (h : KeptByWrites R)
include h

theorem writeTokens (tokens : TokenPair) (policy : ExpiryPolicy) : Along R (writeTokens tokens policy).run := by
  refine .get fun p ↦ (h.setCookie _ _ _).andThen fun _ ↦ ?_
  cases tokens.refresh with
  | some r => exact h.setCookie _ _ _
  | none => exact .pure _

theorem setCredential (tokens : TokenPair) (remember : Bool) (payload : Option LoginPayload)
    (hk : ∀ l, payload = some l → Along R (keepLogin remember l).run) :
    Along R (setCredential tokens remember payload).run := by
  refine (h.writeTokens _ _).andThen fun _ ↦ (h.localSet _ _).andThen fun _ ↦ ?_
  cases payload with
  | none => exact .pure _
  | some l => exact hk l rfl

theorem replaceTokens (tokens : TokenPair) : Along R (replaceTokens tokens).run :=
  h.rememberMe.bind fun _ ↦ h.writeTokens _ _

theorem deviceId : Along R deviceId.run := by
  refine (h.get _).andThen fun entry ↦ ?_
  cases (entry.map DeviceId.parse).bind Except.toOption with
  | some id => exact .pure _
  | none => exact h.issueDeviceId.andThen fun _ ↦ (h.localSet _ _).andThen fun _ ↦ .pure _

end KeptByWrites

end Backoffice.Profile
