import Backoffice.Proofs.Client.SignIn
import Backoffice.Proofs.Task.Telling

namespace Backoffice

open Web (Request Response Body Outcome)

structure View.Waits (v w : View) : Prop where
  eq : w = ⟨{ v.sight with now := w.sight.now }, v.context⟩
  timely : v.sight.Timely → w.sight.Timely

namespace View.Waits

variable {u v w : View}

theorem refl (v : View) : v.Waits v := ⟨rfl, id⟩

theorem trans (h : u.Waits v) (h' : v.Waits w) : u.Waits w where
  eq := by rw [h'.eq, h.eq]
  timely := h'.timely ∘ h.timely

theorem context (h : v.Waits w) : w.context = v.context := by rw [h.eq]

theorem credential (h : v.Waits w) : w.sight.credential = v.sight.credential := by
  rw [h.eq]
  rfl

theorem deviceId (h : v.Waits w) : w.sight.deviceId = v.sight.deviceId := by
  rw [h.eq]
  rfl

end View.Waits

namespace Console

variable {α β : Type}

def Waits (c d : Console) : Prop := (c.Reliable → d.Reliable) ∧ c.view.Waits d.view

/-- A task that goes on from the view `v` after the exchanges `tr` and ends in `Q`. -/
structure Told (t : ConsoleM α) (v : View) (tr : List Exchange)
    (Q : α → View → List Exchange → Prop) : Prop where
  tells : ∀ c : Console, c.Reliable → c.view = v →
    t.Tells Waits (fun a c tr ↦ c.Reliable ∧ Q a c.view tr) c tr

variable {v : View} {tr : List Exchange} {Q Q' : α → View → List Exchange → Prop}
  {R : β → View → List Exchange → Prop}

namespace Told

theorem done {a : α} (h : Q a v tr) : Told (.done a) v tr Q := by
  refine ⟨fun c hc hv ↦ ?_⟩
  subst hv
  exact ⟨hc, h⟩

theorem mono {t : ConsoleM α} (h : Told t v tr Q) (hq : ∀ a v tr, Q a v tr → Q' a v tr) :
    Told t v tr Q' :=
  ⟨fun c hc hv ↦ (h.tells c hc hv).mono fun a c tr hQ ↦ ⟨hQ.1, hq a c.view tr hQ.2⟩⟩

theorem bind {t : ConsoleM α} {f : α → ConsoleM β} (h : Told t v tr Q)
    (hf : ∀ a v tr, Q a v tr → Told (f a) v tr R) : Told (t.bind f) v tr R :=
  ⟨fun c hc hv ↦ (h.tells c hc hv).bind fun a c tr hQ ↦ (hf a c.view tr hQ.2).tells c hQ.1 rfl⟩

theorem onProfile {act : StateM Profile α} {a : α} {s : Sight} (h : Profile.Does act v.sight a s)
    (hq : Q a ⟨s, v.context⟩ tr) : Told (Console.onProfile act) v tr Q := by
  refine ⟨fun c hc hv ↦ ?_⟩
  subst hv
  obtain ⟨p, he, hp, hs⟩ := h c.profile hc rfl
  subst hs
  change _ ∧ _
  simp only [he]
  exact ⟨hp, hq⟩

theorem read {f : Context → α} (hq : Q (f v.context) v tr) : Told (Console.read f) v tr Q := by
  refine ⟨fun c hc hv ↦ ?_⟩
  subst hv
  exact ⟨hc, hq⟩

theorem modify {f : Context → Context} {Q : Unit → View → List Exchange → Prop}
    (hq : Q () ⟨v.sight, f v.context⟩ tr) : Told (Console.modify f) v tr Q := by
  refine ⟨fun c hc hv ↦ ?_⟩
  subst hv
  exact ⟨hc, hq⟩

theorem request {r : Request} {Q : Outcome → View → List Exchange → Prop}
    (hq : ∀ o w, v.Waits w → Q o w (⟨r, o⟩ :: tr)) : Told (Task.request r) v tr Q := by
  refine ⟨fun c hc hv o d hd ↦ ?_⟩
  subst hv
  exact ⟨hd.1 hc, hq o d.view hd.2⟩

theorem acquire {g : Gate} {Q : Unit → View → List Exchange → Prop}
    (hq : ∀ w, v.Waits w → Q () w tr) : Told (Task.acquire g) v tr Q := by
  refine ⟨fun c hc hv d hd ↦ ?_⟩
  subst hv
  exact ⟨hd.1 hc, hq d.view hd.2⟩

theorem release {g : Gate} {Q : Unit → View → List Exchange → Prop} (hq : Q () v tr) :
    Told (Task.release g) v tr Q := by
  refine ⟨fun c hc hv ↦ ?_⟩
  subst hv
  exact ⟨hc, hq⟩

theorem next {t : ConsoleM α} {f : α → ConsoleM β} {a : α} {w : View}
    (h : Told t v tr fun b u tr' ↦ b = a ∧ u = w ∧ tr' = tr) (hf : Told (f a) w tr R) :
    Told (t.bind f) v tr R := by
  apply h.bind
  rintro _ _ _ ⟨rfl, rfl, rfl⟩
  exact hf

end Told

abbrev ToldOf (t : Action α) (v : View) (tr : List Exchange)
    (Q : Except ClientError α → View → List Exchange → Prop) : Prop := Told t.run v tr Q

variable {P : Except ClientError α → View → List Exchange → Prop}
  {P' : Except ClientError β → View → List Exchange → Prop}

namespace ToldOf

theorem pure {a : α} (h : P (.ok a) v tr) : ToldOf (Pure.pure a) v tr P := Told.done h

theorem throw {e : ClientError} (h : P (.error e) v tr) : ToldOf (throw e : Action α) v tr P :=
  Told.done h

theorem bind {t : Action α} {f : α → Action β} (h : ToldOf t v tr P)
    (hf : ∀ a v tr, P (.ok a) v tr → ToldOf (f a) v tr P')
    (he : ∀ e v tr, P (.error e) v tr → P' (.error e) v tr) : ToldOf (t >>= f) v tr P' := by
  apply Told.bind (f := ExceptT.bindCont f) h
  intro r v tr hP
  cases r with
  | error e => exact .done (he e v tr hP)
  | ok a => exact hf a v tr hP

theorem sure {t : ConsoleM α} (h : Told t v tr fun a ↦ P (.ok a)) : ToldOf (Console.sure t) v tr P :=
  h.bind fun _ _ _ hP ↦ .done hP

theorem sure_bind {t : ConsoleM α} {f : α → Action β} (h : Told t v tr Q)
    (hf : ∀ a v tr, Q a v tr → ToldOf (f a) v tr P') : ToldOf (Console.sure t >>= f) v tr P' := by
  apply bind (P := fun r w tr ↦ ∃ a, r = .ok a ∧ Q a w tr)
  · exact sure (h.mono fun a _ _ hQ ↦ ⟨a, rfl, hQ⟩)
  · rintro _ w tr ⟨a, ⟨⟩, hQ⟩
    exact hf _ w tr hQ
  · rintro _ w tr ⟨a, ⟨⟩, hQ⟩

theorem sure_next {t : ConsoleM α} {f : α → Action β} {a : α} {w : View}
    (h : Told t v tr fun b u tr' ↦ b = a ∧ u = w ∧ tr' = tr) (hf : ToldOf (f a) w tr P') :
    ToldOf (Console.sure t >>= f) v tr P' := by
  apply sure_bind h
  rintro _ _ _ ⟨rfl, rfl, rfl⟩
  exact hf

theorem stored_next {act : ProfileM α} {f : α → Action β} {a : α} {s : Sight}
    (h : Profile.Does act.run v.sight (.ok a) s) (hf : ToldOf (f a) ⟨s, v.context⟩ tr P') :
    ToldOf (stored act >>= f) v tr P' := by
  have hs : ToldOf (stored act) v tr fun r u tr' ↦ r = .ok a ∧ u = ⟨s, v.context⟩ ∧ tr' = tr :=
    sure_next (.onProfile h ⟨rfl, rfl, rfl⟩) (.pure ⟨rfl, rfl, rfl⟩)
  apply bind hs
  · rintro _ _ _ ⟨⟨⟩, rfl, rfl⟩
    exact hf
  · rintro _ _ _ ⟨⟨⟩, -⟩

end ToldOf

end Console

namespace Call

/-- What a call comes to, with the exchange that it adds, if it can be sent. -/
inductive Goes (c : Call) : Except ClientError Response → List Exchange → Prop
  | unsent (h : c.request? = none) : Goes c (.error .invalidRequest) []
  | lost {r : Request} (h : c.request? = some r) : Goes c (.error .transport) [⟨r, none⟩]
  | answered {r : Request} (h : c.request? = some r) (a : Response) : Goes c (.ok a) [⟨r, some a⟩]

/-- What a refresh comes to, given the call that asks for new tokens, if there is a token to ask with. -/
inductive Refreshes (renewal : Option Call) :
    Except RefreshFailure TokenPair → List Exchange → Prop
  | untried (h : renewal = none) : Refreshes renewal (.error .noToken) []
  | lost {c : Call} {e : ClientError} {later : List Exchange} (h : renewal = some c)
      (hg : c.Goes (.error e) later) : Refreshes renewal (.error .unanswered) later
  | answered {c : Call} {a : Response} {later : List Exchange} {found : Except RefreshFailure TokenPair}
      (h : renewal = some c) (hg : c.Goes (.ok a) later) (hf : Console.refreshedTokens a = found) :
      Refreshes renewal found later

/-- What a request comes to whose first call is `first`, made while `held` is the credential: the exchanges
that it adds, the credential after it and the sign-outs that it forced. -/
inductive Asks (held : Option Credential) (first : Call) (renewal : Option Call) :
    Except ClientError Response → List Exchange → Option Credential → Nat → Prop
  | settled {r : Except ClientError Response} {later : List Exchange} (hg : first.Goes r later)
      (hr : ∀ a, r = .ok a → a.status ≠ unauthorized) : Asks held first renewal r later held 0
  | refused {a : Response} {later later' : List Exchange} {why : RefreshFailure}
      (hg : first.Goes (.ok a) later) (ha : a.status = unauthorized)
      (hf : Refreshes renewal (.error why) later') :
      Asks held first renewal (.error (.refreshFailed why)) (later' ++ later) none 1
  | retried {a : Response} {later later' later'' : List Exchange} {c : Credential} {pair : TokenPair}
      {r : Except ClientError Response} (hg : first.Goes (.ok a) later) (ha : a.status = unauthorized)
      (hc : held = some c) (hf : Refreshes renewal (.ok pair) later')
      (hr : (first.retry pair.access).Goes r later'') :
      Asks held first renewal r (later'' ++ (later' ++ later))
        (some ⟨pair.access, pair.refresh.or c.refresh, c.expiry⟩) 0

theorem Asks.isSome_of_ok {held left : Option Credential} {first : Call} {renewal : Option Call}
    {a : Response} {later : List Exchange} {signOuts : Nat}
    (h : first.Asks held renewal (.ok a) later left signOuts) (hh : held.isSome) : left.isSome := by
  cases h with
  | settled => exact hh
  | retried => rfl

end Call

attribute [local irreducible] Routes.ofBase

namespace Console

variable {v : View} {tr : List Exchange}

theorem sendOnce_told (c : Call) (v : View) (tr : List Exchange) :
    ToldOf (sendOnce c.method c.url c.token c.body) v tr fun r w tr' ↦
      v.Waits w ∧ ∃ later, tr' = later ++ tr ∧ c.Goes r later := by
  unfold sendOnce
  cases hr : buildRequest c.method c.url c.token c.body with
  | none => exact .throw ⟨.refl v, [], rfl, .unsent hr⟩
  | some r =>
    refine ToldOf.sure_bind (Q := fun o w tr' ↦ v.Waits w ∧ tr' = ⟨r, o⟩ :: tr)
      (.request fun o w hw ↦ ⟨hw, rfl⟩) ?_
    rintro o w _ ⟨hw, rfl⟩
    cases o with
    | none => exact .throw ⟨hw, [⟨r, none⟩], rfl, .lost hr⟩
    | some a => exact .pure ⟨hw, [⟨r, some a⟩], rfl, .answered hr a⟩

theorem credential_told (v : View) (tr : List Exchange) :
    Told (onProfile Profile.credential) v tr fun c w tr' ↦ c = v.sight.credential ∧ w = v ∧ tr' = tr :=
  .onProfile (Profile.credential_does v.sight) ⟨rfl, rfl, rfl⟩

theorem accessToken_told (v : View) (tr : List Exchange) :
    Told accessToken v tr fun t w tr' ↦
      t = v.sight.credential.map Credential.access ∧ w = v ∧ tr' = tr :=
  Told.next (credential_told v tr) (.done ⟨rfl, rfl, rfl⟩)

theorem discardCredential_told (v : View) (tr : List Exchange) :
    Told discardCredential v tr fun a w tr' ↦
      a = () ∧ w = ⟨v.sight.clearCredential, v.context⟩ ∧ tr' = tr :=
  Told.next (.onProfile (Profile.clearCredential_succeeds v.sight).does ⟨rfl, rfl, rfl⟩)
    (.done ⟨rfl, rfl, rfl⟩)

def renewal? (v : View) : Option Call :=
  (v.sight.credential.bind Credential.refresh).map
    (Call.renewal v.context.routes v.sight.deviceId)

theorem renewal?_of_waits {w : View} (h : v.Waits w) : renewal? w = renewal? v := by
  simp only [renewal?, h.credential, h.context, h.deviceId]

inductive Refreshed (v : View) (tr : List Exchange) :
    Except ClientError String → View → List Exchange → Prop
  | failed {w : View} {why : RefreshFailure} {later : List Exchange} (ht : w.sight.Timely)
      (hx : w.context = v.context) (hf : Call.Refreshes (renewal? v) (.error why) later) :
      Refreshed v tr (.error (.refreshFailed why)) w (later ++ tr)
  | renewed {w : View} {c : Credential} {pair : TokenPair} {later : List Exchange} (ht : w.sight.Timely)
      (hx : w.context = v.context) (hc : v.sight.credential = some c)
      (hw : w.sight.credential = some ⟨pair.access, pair.refresh.or c.refresh, c.expiry⟩)
      (hf : Call.Refreshes (renewal? v) (.ok pair) later) :
      Refreshed v tr (.ok pair.access) w (later ++ tr)

inductive Renewed (v : View) (tr : List Exchange) :
    Except ClientError String → View → List Exchange → Prop
  | failed {w : View} {why : RefreshFailure} {later : List Exchange} (ht : w.sight.Timely)
      (hx : w.context = { v.context with signOuts := v.context.signOuts + 1 })
      (hw : w.sight.credential = none) (hf : Call.Refreshes (renewal? v) (.error why) later) :
      Renewed v tr (.error (.refreshFailed why)) w (later ++ tr)
  | renewed {w : View} {c : Credential} {pair : TokenPair} {later : List Exchange} (ht : w.sight.Timely)
      (hx : w.context = v.context) (hc : v.sight.credential = some c)
      (hw : w.sight.credential = some ⟨pair.access, pair.refresh.or c.refresh, c.expiry⟩)
      (hf : Call.Refreshes (renewal? v) (.ok pair) later) :
      Renewed v tr (.ok pair.access) w (later ++ tr)

theorem refresh_told (ht : v.sight.Timely) (tr : List Exchange) :
    ToldOf refresh v tr (Refreshed v tr) := by
  refine ToldOf.sure_next (credential_told v tr) ?_
  cases htoken : v.sight.credential.bind Credential.refresh with
  | none =>
    have hn : renewal? v = none := by rw [renewal?, htoken]; rfl
    have hf : Refreshed v tr (.error (.refreshFailed .noToken)) v ([] ++ tr) := .failed ht rfl (.untried hn)
    exact .throw hf
  | some token =>
    let call := Call.renewal v.context.routes v.sight.deviceId token
    have hr : renewal? v = some call := by rw [renewal?, htoken]; rfl
    obtain ⟨c, hc, -⟩ := Option.bind_eq_some_iff.mp htoken
    refine ToldOf.stored_next (Profile.deviceId_succeeds v.sight).does ?_
    refine ToldOf.sure_next (.read ⟨rfl, rfl, rfl⟩) ?_
    refine ToldOf.sure_bind (sendOnce_told call ⟨v.sight.identified, v.context⟩ tr) ?_
    rintro r w tr' ⟨hw, later, rfl, hg⟩
    have hw' : w.sight.Timely := hw.timely (by rwa [Sight.Timely, Sight.now_identified])
    have hwc : w.sight.credential = some c := by rw [hw.credential, Sight.credential_identified, hc]
    cases r with
    | error e => exact .throw (.failed hw' hw.context (.lost hr hg))
    | ok answer =>
      simp only
      cases hp : refreshedTokens answer with
      | error why => exact .throw (.failed hw' hw.context (.answered hr hg hp))
      | ok pair =>
        obtain ⟨ha, hne⟩ := refreshedTokens_ne hp
        refine ToldOf.stored_next (Profile.replaceTokens_does pair (hw' _)) (.pure ?_)
        refine .renewed ?_ hw.context hc (Sight.credential_writeTokens_of_some _ ha hne hwc _) (.answered hr hg hp)
        simpa only [Sight.Timely, Sight.now_writeTokens] using hw'

theorem renew_told (ht : v.sight.Timely) (tr : List Exchange) :
    ToldOf freshToken.renew v tr (Renewed v tr) := by
  refine ToldOf.sure_bind (refresh_told ht tr) fun r w tr' hr ↦ ?_
  cases hr with
  | renewed ht hx hc hw hf => exact .pure (.renewed ht hx hc hw hf)
  | failed ht hx hf =>
    refine ToldOf.sure_next (discardCredential_told w _) ?_
    refine ToldOf.sure_next (.modify ⟨rfl, rfl, rfl⟩) (.throw (.failed ?_ ?_ ?_ hf))
    · exact ht
    · rw [hx]
    · exact Sight.credential_clearCredential _

theorem freshToken_told (ht : v.sight.Timely) (tr : List Exchange) :
    ToldOf (freshToken (v.sight.credential.map Credential.access)) v tr (Renewed v tr) := by
  refine ToldOf.sure_next (accessToken_told v tr) ?_
  cases v.sight.credential with
  | none => exact renew_told ht tr
  | some c => simpa using renew_told ht tr

structure Asked (v : View) (tr : List Exchange) (first : Call) (r : Except ClientError Response)
    (w : View) (tr' : List Exchange) : Prop where
  timely : w.sight.Timely
  exchanges : ∃ later signOuts, tr' = later ++ tr ∧
    first.Asks v.sight.credential (renewal? v) r later w.sight.credential signOuts ∧
    w.context = { v.context with signOuts := v.context.signOuts + signOuts }

theorem request_told (ht : v.sight.Timely) (tr : List Exchange) (method url : String) (body : Body) :
    ToldOf (request method url body) v tr
      (Asked v tr ⟨method, url, v.sight.credential.map Credential.access, body⟩) := by
  let first : Call := ⟨method, url, v.sight.credential.map Credential.access, body⟩
  refine ToldOf.sure_next (accessToken_told v tr) ?_
  apply ToldOf.bind (sendOnce_told first v tr)
  · rintro a w tr' ⟨hw, later, rfl, hg⟩
    by_cases ha : a.status = unauthorized
    · simp only [ha, ne_eq, not_true_eq_false, if_false]
      refine ToldOf.sure_bind (.acquire (Q := fun _ u tr' ↦ v.Waits u ∧ tr' = later ++ tr)
        fun u hu ↦ ⟨hw.trans hu, rfl⟩) ?_
      rintro _ u _ ⟨hu, rfl⟩
      have hfresh := freshToken_told (hu.timely ht) (later ++ tr)
      rw [hu.credential] at hfresh
      refine ToldOf.sure_bind hfresh fun r x tr' hx ↦ ?_
      refine ToldOf.sure_next (.release ⟨rfl, rfl, rfl⟩) ?_
      cases hx with
      | failed ht hx hc hf =>
        rw [renewal?_of_waits hu] at hf
        refine .throw ⟨ht, _, 1, (List.append_assoc ..).symm, ?_, ?_⟩
        · rw [hc]
          exact .refused hg ha hf
        · rw [hx, hu.context]
      | @renewed _ c pair later' ht hx hc hxc hf =>
        rw [renewal?_of_waits hu] at hf
        rw [hu.credential] at hc
        refine (sendOnce_told (first.retry pair.access) x _).mono ?_
        rintro r y _ ⟨hy, later'', rfl, hr⟩
        refine ⟨hy.timely ht, later'' ++ (later' ++ later), 0, ?_, ?_, ?_⟩
        · simp only [List.append_assoc]
        · rw [hy.credential, hxc]
          exact .retried hg ha hc hf hr
        · rw [hy.context, hx, hu.context]
          rfl
    · simp only [ne_eq, ha, not_false_eq_true, if_true]
      refine .pure ⟨hw.timely ht, later, 0, rfl, ?_, hw.context⟩
      rw [hw.credential]
      refine .settled hg ?_
      rintro _ ⟨⟩
      exact ha
  · rintro e w tr' ⟨hw, later, rfl, hg⟩
    refine ⟨hw.timely ht, later, 0, rfl, ?_, hw.context⟩
    rw [hw.credential]
    exact .settled hg fun _ h ↦ by cases h

end Console

theorem Sight.Ages.eq_of_sparing {s s' : Sight} (h : s.Ages .sparing s') (hs : s'.session = s.session)
    (hd : s'.deviceIds = s.deviceIds) (hi : s'.issued = s.issued) : s' = { s with now := s'.now } := by
  have hc : s'.cookies = s.cookies := by
    funext name
    rcases h.cookies name with hc | ⟨hk, -⟩
    · exact hc
    · cases hk
  have hk := h.kept
  obtain ⟨now, cookies, kept, session, deviceIds, issued⟩ := s'
  simp only at hs hd hi hc hk
  subst hs hd hi hc hk
  rfl

theorem Network.Serves.keeping {net : Network World} (hn : net.Serves .sparing) :
    net.Keeping (Workspace.Ticks .sparing) := by
  intro r w
  obtain ⟨ht, he⟩ := hn r w
  refine ⟨_, he, ht, ?_⟩
  cases (net r w).1 with
  | atOnce o => exact .inl rfl
  | after delay o => exact .inr ⟨delay, rfl⟩

namespace Workspace

variable {w w' : Workspace} {α : Type}

theorem Ticks.waits (ht : w.Ticks .sparing w') (n : Nat) : (w.console n).Waits (w'.console n) := by
  have hc := ht.console n
  have hh := ht.host.only_now
  refine ⟨ht.reliable, ?_, ht.host.timely⟩
  have hs : (w'.console n).view.sight = _ := (ht.ages n).eq_of_sparing (by rw [hc]; rfl)
    (by rw [hc]; change w'.host.deviceIds = _; rw [hh]; rfl)
    (by rw [hc]; change w'.host.issued = _; rw [hh]; rfl)
  have hx : (w'.console n).view.context = (w.console n).view.context := by
    rw [hc]
    rfl
  exact congr (congrArg View.mk hs) hx

theorem inClient_told {t : ConsoleM α} {n : Nat} {tr : List Exchange}
    {Q : α → View → List Exchange → Prop} (hr : (w.console n).Reliable)
    (h : Console.Told t (w.console n).view tr Q) : (inClient n t).Tells (Ticks .sparing)
      (fun a w' tr' ↦ (w'.console n).Reliable ∧ Q a (w'.console n).view tr') w tr :=
  Task.Tells.zoom (console_putConsole n) (fun _ _ ht ↦ ht.waits n) (h.tells _ hr rfl)

end Workspace

end Backoffice
