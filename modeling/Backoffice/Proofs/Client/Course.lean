import Backoffice.Proofs.Client.Reach
import Backoffice.Proofs.Client.Bond

namespace Backoffice

open Time (Instant)
open Web (Request Outcome)

variable {α α' β : Type} {B : Bond} {Q : α → α' → Prop}

namespace Bond.Workspaces

variable {w w' : Workspace}

theorem exists_eq (hw : B.Workspaces w w') :
    ∃ host stores, w' = { w with host := host, sessionStores := stores } := ⟨_, _, hw.only_profiles⟩

theorem same (hw : B.Workspaces w w') {f : Workspace → α}
    (hf : ∀ host stores, f { w with host := host, sessionStores := stores } = f w) : f w = f w' := by
  obtain ⟨host, stores, rfl⟩ := hw.exists_eq
  exact (hf host stores).symm

theorem eq (hw : B.Workspaces w w') (he : ∀ name v v', B.kin.values name v v' → v = v') : w = w' := by
  have hs : w.sessionStores = w'.sessionStores := by
    funext n
    have hc := (hw.cookies n).eq he
    have hn := hw.session n
    generalize w.sessionStores n = s at hc hn ⊢
    generalize w'.sessionStores n = s' at hc hn ⊢
    cases s
    cases s'
    cases hc
    cases hn
    rfl
  rw [hw.only_profiles, ← hw.hosts.eq he, ← hs]

theorem refl (hB : B.Lawful) (hf : B.kin.fit w.host) (hk : ∀ n, B.known (w.clients n).context.config) :
    B.Workspaces w w where
  hosts := ⟨⟨⟨.refl (fun _ ↦ .refl) _, rfl⟩, rfl⟩, hf, hf⟩
  cookies _ := .refl hB.kin.refl _
  session _ := rfl
  known := hk
  only_profiles := rfl

theorem console (hw : B.Workspaces w w') (n : Nat) : B.consoles.states (w.console n) (w'.console n) := by
  obtain ⟨host, stores, rfl⟩ := hw.exists_eq
  exact ⟨⟨hw.hosts, hw.cookies _, hw.session _⟩, rfl, hw.known n⟩

theorem desk (hw : B.Workspaces w w') (n : Nat) : B.desks.states (w.desk n) (w'.desk n) := by
  have hf : w.forms = w'.forms := hw.same fun _ _ ↦ rfl
  unfold Workspace.desk
  rw [hf]
  exact ⟨hw.console _, rfl, rfl⟩

theorem putConsole (hw : B.Workspaces w w') {c c' : Console} (hc : B.consoles.states c c') (n : Nat) :
    B.Workspaces (w.putConsole n c) (w'.putConsole n c') := by
  obtain ⟨host, stores, rfl⟩ := hw.exists_eq
  obtain ⟨hp, hx, hk⟩ := hc
  refine {
    hosts := hp.hosts
    cookies := fun m ↦ ?cookies
    session := fun m ↦ ?session
    known := fun m ↦ ?known
    only_profiles := ?only_profiles }
  case cookies =>
    simp only [Workspace.putConsole]
    by_cases hm : m = (w.clients n).sessionStore
    · subst hm
      simp only [Workspace.setAt_self]
      exact hp.cookies
    · simp only [Workspace.setAt_of_ne _ hm]
      exact hw.cookies m
  case session =>
    simp only [Workspace.putConsole]
    by_cases hm : m = (w.clients n).sessionStore
    · subst hm
      simp only [Workspace.setAt_self]
      exact hp.session
    · simp only [Workspace.setAt_of_ne _ hm]
      exact hw.session m
  case known =>
    simp only [Workspace.putConsole]
    by_cases hm : m = n
    · subst hm
      simp only [Workspace.setAt_self]
      exact hk
    · simp only [Workspace.setAt_of_ne _ hm]
      exact hw.known m
  case only_profiles =>
    simp only [Workspace.putConsole, hx]

theorem map (hw : B.Workspaces w w') {f : Workspace → Workspace}
    (hf : ∀ host stores, f { w with host := host, sessionStores := stores } =
      { f w with host := host, sessionStores := stores })
    (hk : ∀ n, B.known ((f w).clients n).context.config) : B.Workspaces (f w) (f w') := by
  have he : f w = { f w with host := w.host, sessionStores := w.sessionStores } := hf w.host w.sessionStores
  have hh : (f w).host = w.host := by rw [he]
  have hs : (f w).sessionStores = w.sessionStores := by rw [he]
  obtain ⟨host, stores, rfl⟩ := hw.exists_eq
  rw [hf host stores]
  exact ⟨hh ▸ hw.hosts, hs ▸ hw.cookies, hs ▸ hw.session, hk, rfl⟩

theorem putDesk (hw : B.Workspaces w w') {d d' : Desk} (hd : B.desks.states d d') (n : Nat) :
    B.Workspaces (w.putDesk n d) (w'.putDesk n d') := by
  have hf : w.forms = w'.forms := hw.same fun _ _ ↦ rfl
  have hc := hw.putConsole hd.1 (w.forms n).client
  unfold Workspace.putDesk
  rw [← hf, ← hd.2.1, ← hd.2.2]
  exact hc.map (f := fun v ↦ { v with forms := Workspace.setAt v.forms n ⟨(w.forms n).client, d.mode, d.form⟩ })
    (fun _ _ ↦ rfl) hc.known

theorem tick (hB : B.Lawful) (hw : B.Workspaces w w') (now : Instant) :
    B.Workspaces { w with host := { w.host with now } } { w' with host := { w'.host with now } } := by
  refine ⟨hw.hosts.ticks hB.kin now, hw.cookies, hw.session, hw.known, ?_⟩
  rw [hw.only_profiles]

theorem initial (hw : B.Workspaces w w') {config : Config} (hk : B.known config) (hostName : String) :
    B.Workspaces (.initial w.host config hostName) (.initial w'.host config hostName) :=
  ⟨hw.hosts, fun _ ↦ .nil, fun _ ↦ rfl, fun _ ↦ hk, rfl⟩

end Bond.Workspaces

namespace Workspace

theorem read_matches {f : Workspace → α} (hf : ∀ w host stores,
      f { w with host := host, sessionStores := stores } = f w) :
    (read f).Matches B.workspaces Eq (read f) :=
  .look fun w _ hw ↦ .done (hw.same (hf w))

theorem read_known_matches {f : Workspace → α} {P : α → Prop}
    (hf : ∀ w host stores, f { w with host := host, sessionStores := stores } = f w)
    (hp : ∀ w : Workspace, (∀ n, B.known (w.clients n).context.config) → P (f w)) :
    (read f).Matches B.workspaces (fun a a' ↦ a = a' ∧ P a) (read f) :=
  .look fun w _ hw ↦ .done ⟨hw.same (hf w), hp w hw.known⟩

theorem modify_matches {f : Workspace → Workspace}
    (hf : ∀ w host stores, f { w with host := host, sessionStores := stores } =
      { f w with host := host, sessionStores := stores })
    (hk : ∀ w, (f w).clients = w.clients) : (modify f).Matches B.workspaces Eq (modify f) := by
  refine .update (fun w _ hw ↦ hw.map (hf w) ?_) (.done rfl)
  rw [hk]
  exact hw.known

theorem inClient_matches {t : ConsoleM α} {t' : ConsoleM α'} (h : t.Matches B.consoles Q t') (n : Nat) :
    (inClient n t).Matches B.workspaces Q (inClient n t') :=
  h.zoom (fun _ _ hw ↦ hw.console n) (fun _ _ _ _ hc hw ↦ hw.putConsole hc n) fun _ _ ↦ id

theorem inCurrent_matches {t : ConsoleM α} {t' : ConsoleM α'} (h : t.Matches B.consoles Q t') :
    (inCurrent t).Matches B.workspaces Q (inCurrent t') :=
  (read_matches fun _ _ _ ↦ rfl).next fun n ↦ inClient_matches h n

theorem inForm_matches {t : DeskM α} (h : t.Matches B.desks Eq t) (n : Nat) :
    (inForm n t).Matches B.workspaces Eq (inForm n t) :=
  (read_matches fun _ _ _ ↦ rfl).next fun _ ↦
    h.zoom (fun _ _ hw ↦ hw.desk n) (fun _ _ _ _ hd hw ↦ hw.putDesk hd n) fun _ _ ↦ id

theorem inOpenForm_matches {t : DeskM α} (h : t.Matches B.desks Eq t) :
    (inOpenForm t).Matches B.workspaces Eq (inOpenForm t) := by
  refine (read_matches fun _ _ _ ↦ rfl).next fun o ↦ ?_
  cases o with
  | none => exact .done rfl
  | some n => exact (inForm_matches h n).next fun _ ↦ .done rfl

theorem allot_matches : allot.Matches B.workspaces Eq allot := by
  refine (read_matches fun _ _ _ ↦ rfl).next fun n ↦ Task.Matches.next ?_ fun _ ↦ .done rfl
  exact modify_matches (fun _ _ _ ↦ rfl) fun _ ↦ rfl

theorem addClient_matches (store : Nat) {context : Context} (hk : B.known context.config) :
    (addClient store context).Matches B.workspaces Eq (addClient store context) := by
  refine allot_matches.next fun n ↦ .update (fun w w' hw ↦ ?_) (.done rfl)
  refine hw.map (f := fun w ↦ { w with clients := setAt w.clients n ⟨store, context⟩ }) (fun _ _ ↦ rfl) fun m ↦ ?_
  by_cases hm : m = n
  · subst hm
    simp only [setAt_self]
    exact hk
  · simp only [setAt_of_ne _ hm]
    exact hw.known m

variable (hB : B.Lawful)
include hB

theorem start_matches {config : Config} (hk : B.known config) (hostName : String) :
    (start config hostName).run.Matches B.workspaces (Fares Eq) (start config hostName).run := by
  have hx : B.known (Context.fresh config hostName).config := hk
  refine allot_matches.lift_next fun store ↦ (addClient_matches store hx).lift_next fun n ↦ ?_
  refine (inClient_matches ((Console.start_matches hB).mono fun _ _ h ↦ h.eq) n).lift_next fun r ↦ ?_
  cases r with
  | error e => exact .done (.error e)
  | ok status =>
    refine Task.Matches.lift_next ?_ fun _ ↦ .done (.ok rfl)
    exact modify_matches (fun _ _ _ ↦ rfl) fun _ ↦ rfl

theorem restart_matches : restart.run.Matches B.workspaces (Fares Eq) restart.run := by
  refine (read_known_matches (P := fun context ↦ B.known context.config) (fun _ _ _ ↦ rfl)
    fun _ hk ↦ hk _).lift_bind fun context _ hc ↦ ?_
  obtain ⟨rfl, hk⟩ := hc
  exact start_matches hB hk _

theorem logout_matches : logout.run.Matches B.workspaces (Fares Eq) logout.run := by
  refine (read_matches fun _ _ _ ↦ rfl).lift_next fun n ↦
    Task.Matches.lift_next (modify_matches (fun _ _ _ ↦ by rfl) fun _ ↦ by rfl) fun _ ↦ ?_
  refine (inClient_matches ((Console.signOut_matches hB).mono fun _ _ h ↦ h.eq) n).lift_next fun r ↦ ?_
  cases r with
  | error e => exact .done (.error e)
  | ok _ =>
    refine (read_known_matches (P := fun seat ↦ B.known seat.context.config) (fun _ _ _ ↦ rfl)
      fun _ hk ↦ hk _).lift_bind fun seat _ hs ↦ ?_
    obtain ⟨rfl, hk⟩ := hs
    refine (addClient_matches _ hk).lift_next fun m ↦ ?_
    refine (inClient_matches (Console.reload_matches hB) m).lift_next fun _ ↦ Task.Matches.lift ?_
    exact modify_matches (fun _ _ _ ↦ rfl) fun _ ↦ rfl

theorem openUserForm_matches (mode : FormMode) :
    (openUserForm mode).run.Matches B.workspaces (Fares Eq) (openUserForm mode).run := by
  refine (read_matches fun _ _ _ ↦ rfl).lift_next fun client ↦ ?_
  refine (inClient_matches (Console.isAuthenticated_chore.matches hB) client).lift_next fun signedIn ↦ ?_
  cases signedIn with
  | false => exact .done (.error _)
  | true =>
    refine allot_matches.lift_next fun n ↦
      Task.Matches.lift_next (modify_matches (fun _ _ _ ↦ by rfl) fun _ ↦ by rfl) fun _ ↦ ?_
    refine (inForm_matches ((Desk.prepare_chore hB.plain).matches hB) n).lift_next fun r ↦ ?_
    cases r with
    | error e => exact .done (.error e)
    | ok _ =>
      refine Task.Matches.lift_next (modify_matches (fun _ _ _ ↦ by rfl) fun _ ↦ by rfl) fun _ ↦ ?_
      exact (read_matches fun _ _ _ ↦ rfl).lift

end Workspace

namespace Operation

/-- Whether an operation asks for nothing but what a bond allows, and looks at nothing that it leaves open. -/
def Suits (B : Bond) : {α : Type} → Operation α → Prop
  | _, loginWith payload _ => ∀ url, B.allows "POST" url (.json payload.toJson)
  | _, request method url body => B.allows method url body
  | _, sendEnvelope _ method url body => B.allows method url body
  | _, postPublic url body => B.allows "POST" url (.json body)
  | _, viewForm f => ∀ d d', B.desks.states d d' → f d = f d'
  | _, _ => True

theorem Suits.call {op : Operation α} (hs : op.Suits B) {c : Call} (hc : op.call? = some c) :
    B.allows c.method c.url c.body := by
  cases op with
  | request method url body =>
    cases hc
    exact hs
  | sendEnvelope dec method url body =>
    cases hc
    exact hs
  | postPublic url body =>
    cases hc
    exact hs
  | _ => cases hc

theorem Chore.matches (hB : B.Lawful) {t : WorkspaceM α} (ht : Chore B.allows t) :
    t.Matches B.workspaces Eq t := by
  cases ht with
  | inCurrent ht => exact Workspace.inCurrent_matches (ht.matches hB)
  | inOpenForm ht => exact Workspace.inOpenForm_matches (ht.matches hB)
  | openForm mode => exact (Workspace.openUserForm_matches hB mode).mono fun _ _ h ↦ h.eq

/-- Every operation makes the same of workspaces that are alike. -/
theorem task_matches (hB : B.Lawful) (op : Operation α) (hs : op.Suits B) :
    op.task.Matches B.workspaces Eq op.task := by
  by_cases hop : op.IsSession
  · cases hop with
    | restart => exact (Workspace.restart_matches hB).mono fun _ _ h ↦ h.eq
    | login email password remember =>
      exact Workspace.inCurrent_matches ((Console.login_matches hB email password remember).mono fun _ _ h ↦ h.eq)
    | loginWith payload remember => exact Workspace.inCurrent_matches (Console.loginWith_matches_self hB hs remember)
    | logout => exact (Workspace.logout_matches hB).mono fun _ _ h ↦ h.eq
    | signOut => exact Workspace.inCurrent_matches ((Console.signOut_matches hB).mono fun _ _ h ↦ h.eq)
    | bootstrap => exact Workspace.inCurrent_matches (Console.bootstrap_matches hB)
  by_cases hv : op.IsView
  · cases hv with
    | viewForm f => exact Workspace.inOpenForm_matches (.look fun d d' hd ↦ .done (hs d d' hd))
  exact (op.chore hB.plain hop hv fun _ ↦ hs.call).matches hB

end Operation

/-- What happens to a client: another is started over what it has kept, an operation comes to a result, or
time passes. -/
inductive Leg : Type 1
  | opened (config : Config) (hostName : String) (r : Except ClientError SessionStatus)
  | ran {α : Type} (op : Operation α) (a : α)
  | ticked (now : Instant)

/-- The legs by which a world becomes another. -/
inductive Course (net : Network World) : World → List Leg → World → Prop
  | nil (w : World) : Course net w [] w
  | opened {w w₁ w₂ : World} {config : Config} {hostName : String} {r : Except ClientError SessionStatus}
      {legs : List Leg}
      (h : WorkspaceM.Runs net (Workspace.start config hostName).run
        (.initial w.1.host config hostName, w.2) r w₁)
      (hc : Course net w₁ legs w₂) : Course net w (.opened config hostName r :: legs) w₂
  | ran {α : Type} {w w₁ w₂ : World} {op : Operation α} {a : α} {legs : List Leg}
      (h : WorkspaceM.Runs net op.task w a w₁) (hc : Course net w₁ legs w₂) :
      Course net w (.ran op a :: legs) w₂
  | ticked {w w₂ : World} {now : Instant} {legs : List Leg}
      (hc : Course net ({ w.1 with host := { w.1.host with now } }, w.2) legs w₂) :
      Course net w (.ticked now :: legs) w₂

/-- A network that makes no difference between what is alike: it delivers the same, and time goes on alike. -/
def Network.Blind (L : Likeness World) (net : Network World) : Prop :=
  ∀ r r' w w', L.sends r r' → L.states w w' →
    (net r w).1 = (net r' w').1 ∧ (net r w).2.1.host.now = (net r' w').2.1.host.now

/-- A backend that answers alike, and as fast, makes no difference. -/
theorem Backend.network_blind {L : Likeness World} {f : Request → Outcome}
    (hf : ∀ r r', L.sends r r' → f r = f r') (hn : ∀ w w', L.states w w' → w.1.host.now = w'.1.host.now)
    (delay : Nat) : ((Backend.ofFunction f).network fun _ _ ↦ some delay).Blind L :=
  fun r r' w w' hr hw ↦ ⟨congrArg (Delivery.after delay) (hf r r' hr), hn w w' hw⟩

namespace Likeness

/-- A likeness of workspaces that outlasts time. -/
def Lasting (L : Likeness Workspace) : Prop :=
  ∀ {w w'} now, L.states w w' →
    L.states { w with host := { w.host with now } } { w' with host := { w'.host with now } }

def Bears (L : Likeness Workspace) : Leg → Prop
  | .opened config hostName _ =>
    (∀ {w w'}, L.states w w' → L.states (.initial w.host config hostName) (.initial w'.host config hostName)) ∧
      (Workspace.start config hostName).run.Matches L Eq (Workspace.start config hostName).run
  | .ran op _ => op.task.Matches L Eq op.task
  | .ticked _ => True

end Likeness

variable {k : Clock} {net : Network World} {L : Likeness Workspace} {tr tr' : List Exchange} {w w' : World}

theorem Network.blind_of_eq (hw : ∀ w w', L.states w w' → w = w') (hr : ∀ r r', L.sends r r' → r = r')
    (net : Network World) (tr : List Exchange) : net.Blind (L.logged tr tr) := by
  rintro r r' ⟨w, sent₁⟩ ⟨w', sent₂⟩ hq ⟨hs, sent, sent', rfl, rfl, hf⟩
  obtain rfl := Exchange.eq_of_forall₂ hf hr
  cases hw _ _ hs
  cases hr _ _ hq
  exact ⟨rfl, rfl⟩

theorem Network.Blind.matches (hb : net.Blind (L.logged tr tr')) (hs : net.Serves k) (hl : L.Lasting) :
    net.Matches (L.logged tr tr') net := by
  intro r r' w w' hr hw
  obtain ⟨hd, hn⟩ := hb r r' w w' hr hw
  obtain ⟨ht, he⟩ := hs r w
  obtain ⟨ht', he'⟩ := hs r' w'
  obtain ⟨hw, sent, sent', hs, hs', hf⟩ := hw
  refine ⟨hd, ?_, ⟨r, (net r w).1.outcome⟩ :: sent, ⟨r', (net r' w').1.outcome⟩ :: sent', ?_, ?_, .cons ?_ hf⟩
  -- Nothing but the time differs then, and it is the same time in both.
  · have hq := hl (net r w).2.1.host.now hw
    rw [← ht.host.only_now, ← ht.only_host] at hq
    rw [hn, ← ht'.host.only_now, ← ht'.only_host] at hq
    exact hq
  · rw [he, hs]
    rfl
  · rw [he', hs']
    rfl
  · exact ⟨hr, congrArg Delivery.outcome hd⟩

theorem WorkspaceM.Runs.matches {t : WorkspaceM α} {u : WorkspaceM α'} {a : α} {v : World}
    (h : WorkspaceM.Runs net t w a v) (hn : net.Matches (L.logged tr tr') net) (ht : t.Matches L Q u)
    (hw : (L.logged tr tr').states w w') :
    ∃ b v', WorkspaceM.Runs net u w' b v' ∧ Q a b ∧ (L.logged tr tr').states v v' := by
  obtain ⟨events, m, hm, rfl⟩ := h
  obtain ⟨hr, hk⟩ := Machine.run_matches hn events (ht.logged tr tr') hw
  rw [hm] at hr hk
  generalize hp : Machine.run net events u.logged w' = p at hr hk
  obtain ⟨_, m'⟩ := p
  cases hr with
  | @some _ b hq =>
    cases hk with
    | @mk s hs => exact ⟨b, s, ⟨events, _, hp, rfl⟩, hq, hs⟩

theorem WorkspaceM.Runs.matches_self {t : WorkspaceM α} {a : α} {v : World}
    (h : WorkspaceM.Runs net t w a v) (hn : net.Matches (L.logged tr tr') net) (ht : t.Matches L Eq t)
    (hw : (L.logged tr tr').states w w') :
    ∃ v', WorkspaceM.Runs net t w' a v' ∧ (L.logged tr tr').states v v' := by
  obtain ⟨b, v', hr, rfl, hv⟩ := h.matches hn ht hw
  exact ⟨v', hr, hv⟩

/-- Worlds that are alike have the same courses, with the same results, and stay alike. -/
theorem Course.matches {legs : List Leg} {v : World} (h : Course net w legs v)
    (hn : net.Matches (L.logged tr tr') net) (hl : L.Lasting) (he : ∀ e ∈ legs, L.Bears e)
    (hw : (L.logged tr tr').states w w') :
    ∃ v', Course net w' legs v' ∧ (L.logged tr tr').states v v' := by
  -- What was sent since `tr` and `tr'` grows from leg to leg, and stays alike.
  induction h generalizing w' with
  | nil w => exact ⟨w', .nil w', hw⟩
  | @opened w _ _ config hostName _ _ h _ ih =>
    obtain ⟨hinitial, hstart⟩ := he _ List.mem_cons_self
    have hi : (L.logged tr tr').states (.initial w.1.host config hostName, w.2)
        (.initial w'.1.host config hostName, w'.2) := ⟨hinitial hw.1, hw.2⟩
    obtain ⟨w₁, h₁, hw₁⟩ := h.matches_self hn hstart hi
    obtain ⟨v', hv, hs⟩ := ih (fun e hm ↦ he e (List.mem_cons_of_mem _ hm)) hw₁
    exact ⟨v', .opened h₁ hv, hs⟩
  | ran h _ ih =>
    obtain ⟨w₁, h₁, hw₁⟩ := h.matches_self hn (he _ List.mem_cons_self) hw
    obtain ⟨v', hv, hs⟩ := ih (fun e hm ↦ he e (List.mem_cons_of_mem _ hm)) hw₁
    exact ⟨v', .ran h₁ hv, hs⟩
  | @ticked w _ now _ _ ih =>
    have ht : (L.logged tr tr').states ({ w.1 with host := { w.1.host with now } }, w.2)
        ({ w'.1 with host := { w'.1.host with now } }, w'.2) := ⟨hl now hw.1, hw.2⟩
    obtain ⟨v', hv, hs⟩ := ih (fun e hm ↦ he e (List.mem_cons_of_mem _ hm)) ht
    exact ⟨v', .ticked hv, hs⟩

namespace Bond

/-- Whether a leg asks for nothing but what a bond allows, and configures clients as the bond knows them. -/
def Suits (B : Bond) : Leg → Prop
  | .opened config _ _ => B.known config
  | .ran op _ => op.Suits B
  | .ticked _ => True

theorem Lawful.lasting (hB : B.Lawful) : B.workspaces.Lasting := fun now hw ↦ hw.tick hB now

theorem Lawful.bears (hB : B.Lawful) {e : Leg} (he : B.Suits e) : B.workspaces.Bears e := by
  cases e with
  | opened config hostName r =>
    exact ⟨fun hw ↦ hw.initial he hostName, (Workspace.start_matches hB he hostName).mono fun _ _ h ↦ h.eq⟩
  | ran op a => exact op.task_matches hB he
  | ticked now => exact trivial

end Bond

end Backoffice
