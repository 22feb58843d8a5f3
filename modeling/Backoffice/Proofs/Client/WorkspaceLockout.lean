import Backoffice.Proofs.Client.Reach
import Backoffice.Proofs.Client.SessionLockout

namespace Backoffice

open Console (Keeps Ensures)

variable {L : Lockout} {α β : Type}

namespace Desk

def sworn (L : Lockout) : Pact Gate Desk := (Console.sworn L.pact).within Desk.console id fun _ ↦ True

theorem Chore.honours {ok : String → String → Web.Body → Prop} {t : DeskM α} (ht : Chore ok t)
    (ho : ∀ method url body, ok method url body → L.Allows method url body) (hl : ¬L.lifted) {d : Desk}
    (hd : (sworn L).holds d) :
    t.Honours (sworn L) (fun m _ d ↦ m = false ∧ (sworn L).holds d) false d := by
  induction ht generalizing d with
  | done a => exact ⟨rfl, hd⟩
  | bind _ _ ih ihf =>
    refine (ih hd).bind ?_
    rintro _ a d ⟨rfl, hd⟩
    exact ihf a hd
  | onConsole ht =>
    have hn : Task.Nests Desk.console (fun c d ↦ { d with console := c }) id (fun _ ↦ True)
        (Console.sworn L.pact) (sworn L) := .within (fun _ _ ↦ rfl) (fun _ _ ↦ id) fun _ ↦ .rfl
    refine (Task.Honours.zoom hn ((ht.keeps ho hl hd.1.2).honours _ hd.1.1 rfl) trivial).mono ?_
    rintro _ _ d ⟨⟨hr, rfl, hv⟩, -⟩
    exact ⟨rfl, ⟨hr, hv⟩, trivial⟩
  | read hf => exact ⟨rfl, hd⟩
  | modifyForm f => exact ⟨.inl rfl, rfl, hd⟩

end Desk

namespace Workspace

variable {w w₀ : Workspace} {n k : Nat}

def guarded (L : Lockout) (n : Nat) (w₀ : Workspace) : Pact (Nat × Gate) Workspace :=
  (Console.sworn L.pact).within (console n) (n, ·) fun w ↦ w.Seated n ∧ w.Beside w₀

theorem mine_iff (n : Nat) (g : Gate) : (n, g) = (n, Gate.refresh) ↔ g = .refresh :=
  ⟨congrArg Prod.snd, congrArg (n, ·)⟩

theorem inClient_honours {t : ConsoleM α} {Q : Bool → α → View → Prop} (hr : (w.console n).Reliable)
    (hs : w.Seated n) (ht : Keeps L.pact t false (w.console n).view Q) :
    (inClient n t).Honours (guarded L n w) (fun m a w' ↦
      ((w'.console n).Reliable ∧ Q m a (w'.console n).view) ∧ w'.Seated n ∧ w'.Beside w) false w := by
  have hn : Task.Nests (console n) (putConsole n) (n, ·) (fun w' ↦ w'.Seated n ∧ w'.Beside w)
      (Console.sworn L.pact) (guarded L n w) :=
    .within (console_putConsole n) (fun c _ hw ↦ ⟨hw.1.putConsole c, hw.2.putConsole n c⟩) (mine_iff n)
  exact Task.Honours.zoom hn (ht.honours _ hr rfl) ⟨hs, rfl, rfl, rfl, fun _ ↦ rfl⟩

theorem console_desk {client : Nat} (hc : (w₀.forms n).client = client) (hb : w.Beside w₀) :
    (w.desk n).console = w.console client := by
  rw [desk, hb.client n, hc]

theorem nests_form {client : Nat} (hc : (w₀.forms n).client = client) :
    Task.Nests (desk n) (putDesk n) (client, ·) (fun w ↦ w.Seated client ∧ w.Beside w₀) (Desk.sworn L)
      (guarded L client w₀) where
  part_put := desk_putDesk n
  frame_put d w hw := by
    have hn : (w.forms n).client = client := by rw [hw.2.client n, hc]
    have hs := hw.1.putConsole d.console
    refine ⟨?_, hw.2.putDesk n d⟩
    simp only [putDesk, hn]
    exact ⟨hs.store_lt, hs.fresh⟩
  gate := mine_iff client
  holds hf h := ⟨console_desk hc hf.2 ▸ h.1, hf⟩
  of_holds h := ⟨⟨(console_desk hc h.2.2).symm ▸ h.1, trivial⟩, h.2⟩
  sends hf h := by
    change L.Sends (console client _).view _
    rw [← console_desk hc hf.2]
    exact h
  count hf := by
    change (console client _).view.context.signOuts = _
    rw [← console_desk hc hf.2]
    rfl
  moot hf h := by
    change L.pact.moot (console client _).view
    rw [← console_desk hc hf.2]
    exact h
  of_moot t h := ⟨⟨t.console client, .create, .blank⟩, h⟩
  alone := id

structure Guarded (mark : Nat) (w : Workspace) : Prop where
  placed : w.Placed
  heeds : (w.console w.current).view.Heeds mark True

def Ends (L : Lockout) (n : Nat) : Bool → α → Workspace → Prop :=
  fun m _ w ↦ m = false ∧ w.current = n ∧ w.Guarded L.mark

theorem inCurrent_honours {t : ConsoleM α} (hw : w.Placed)
    (ht : Keeps L.pact t false (w.console w.current).view fun m _ v ↦ m = false ∧ v.Heeds L.mark True) :
    (inCurrent t).Honours (guarded L w.current w) (Ends L w.current) false w := by
  refine Task.Honours.mono (inClient_honours hw.reliable hw.seated ht) ?_
  rintro m _ w' ⟨⟨hr, rfl, hv⟩, hs, hb⟩
  rw [← hb.current] at hv
  exact ⟨rfl, hb.current, hw.beside hr hs hb, hv⟩

structure Begins (L : Lockout) (n k : Nat) (t : WorkspaceM α) (w : Workspace) : Prop where
  park : ∀ held, let p := t.park ⟨w, held⟩
    (∃ w₀ m, p.1.Honours (guarded L n w₀) (Ends L n) m p.2.state ∧
      (m = true → (n, Gate.refresh) ∈ p.2.held)) ∧
    k ≤ (p.2.state.console n).context.signOuts ∧
    ∀ r ∈ p.1.underway, (guarded L n w).moot p.2.state ∨ (guarded L n w).sends p.2.state r

namespace Begins

variable {ε : Type} {f : Workspace → α} {t : WorkspaceM α}

theorem of_honours {u : Workspace} (h : t.Honours (guarded L n u) (Ends L n) false w)
    (hk : k ≤ (w.console n).context.signOuts) : Begins L n k t w where
  park held := by
    obtain ⟨⟨m, hp, ht⟩, -, hr⟩ := h.park (s := ⟨w, held⟩) nofun
    exact ⟨⟨u, m, hp, ht.held⟩, Nat.le_trans hk ht.le, hr⟩

theorem of_atOnce (h : t.AtOnce (fun a ↦ Ends L n false a) w) : Begins L n 0 t w where
  park held := by
    obtain ⟨a, he, ha⟩ := h.park (s := ⟨w, held⟩)
    simp only [he]
    exact ⟨⟨w, false, ha, nofun⟩, Nat.zero_le _, nofun⟩

variable {g : α → ExceptT ε WorkspaceM β}

theorem read_bind (hg : Begins L n k (g (f w)).run w) :
    Begins L n k (ExceptT.lift (read f) >>= g).run w := ⟨hg.park⟩

theorem atOnce_bind {R : α → Workspace → Prop} (ht : t.AtOnce R w)
    (hg : ∀ a w', R a w' → Begins L n k (g a).run w') : Begins L n k (ExceptT.lift t >>= g).run w where
  park held := by
    have he : (ExceptT.lift t >>= g).run = t.bind fun a ↦ (g a).run := by
      change (t.bind fun a ↦ .done (.ok a)).bind (ExceptT.bindCont g) = _
      rw [Task.bind_assoc]
      rfl
    obtain ⟨a, ha, hR⟩ := ht.park (s := ⟨w, held⟩)
    rw [he, Task.park_bind, ha]
    exact (hg a _ hR).park _

theorem modify_bind {f : Workspace → Workspace} {g : Unit → ExceptT ε WorkspaceM β}
    (hg : Begins L n k (g ()).run (f w)) : Begins L n k (ExceptT.lift (modify f) >>= g).run w := ⟨hg.park⟩

variable {g : Nat → ExceptT ε WorkspaceM β}

theorem allot_bind (hg : Begins L n k (g w.next).run { w with next := w.next + 1 }) :
    Begins L n k (ExceptT.lift allot >>= g).run w := ⟨hg.park⟩

theorem addClient_bind {store : Nat} {context : Context}
    (hg : Begins L n k (g w.next).run (w.withClient store context)) :
    Begins L n k (ExceptT.lift (addClient store context) >>= g).run w := ⟨hg.park⟩

theorem inCurrent {t : ConsoleM α} (hw : w.Placed)
    (ht : Keeps L.pact t false (w.console w.current).view fun m _ v ↦ m = false ∧ v.Heeds L.mark True) :
    Begins L w.current (w.console w.current).context.signOuts (inCurrent t) w :=
  .of_honours (inCurrent_honours hw ht) (Nat.le_refl _)

end Begins

theorem inForm_honours {t : DeskM α} (ht : Desk.Chore L.Allows t) (hs : L.settled) (hl : ¬L.lifted)
    (hw : w.Guarded L.mark) (hn : (w.forms n).client = w.current) :
    (inForm n t).Honours (guarded L w.current w) (fun m a w' ↦ Ends L w.current m a w' ∧ w'.Beside w)
      false w := by
  have hc : (w.desk n).console = w.console w.current := console_desk hn ⟨rfl, rfl, rfl, fun _ ↦ rfl⟩
  have hd : (Desk.sworn L).holds (w.desk n) := by
    refine ⟨hc ▸ ⟨hw.placed.reliable, hw.heeds.coherent, fun _ ↦ ?_, hw.heeds.lockedOut⟩, trivial⟩
    exact hw.heeds.settled trivial
  have ht := Task.Honours.zoom (nests_form hn) (ht.honours (fun _ _ _ ↦ id) hl hd)
    ⟨hw.placed.seated, rfl, rfl, rfl, fun _ ↦ rfl⟩
  change ((t.zoom (desk n) (putDesk n) ((w.forms n).client, ·)).Honours _ _ _ _)
  rw [hn]
  refine ht.mono ?_
  rintro _ _ w' ⟨⟨rfl, hd', -⟩, hs', hb⟩
  rw [console_desk hn hb] at hd'
  obtain ⟨hr, hv, hset, hlo⟩ := hd'
  rw [← hb.current] at hv hset hlo
  exact ⟨⟨rfl, hb.current, hw.placed.beside hr hs' hb, hv, fun _ ↦ hset hs, hlo⟩, hb⟩

theorem start_begins (config : Config) (hostName : String) (hr : w.host.durable.Reliable)
    (hf : ∀ m, w.next ≤ m → w.sessionStores m = ⟨[], []⟩) (hv : (Profile.sight (.blank w.host)).Sound)
    (ha : L.alone) (hb : ¬L.settled)
    (hm : (Profile.sight (.blank w.host)).credential = none ∨ 0 < L.mark) :
    Begins L (w.next + 1) 0 (start config hostName).run w := by
  have hc := console_withFresh config hostName (hf _ (Nat.le_refl _))
  have hh : L.Holds ((w.withFresh config hostName).console (w.next + 1)).view := by
    rw [hc]
    refine ⟨⟨hv, Nat.le_refl _, nofun⟩, (absurd · hb), fun hn ↦ ⟨?_, nofun⟩⟩
    exact hm.resolve_right (Nat.not_lt.mpr hn)
  have hi := inClient_honours (hc ▸ hr) (seated_withFresh config hostName hf)
    (Console.start_keeps ha hb hh)
  refine .allot_bind (.addClient_bind (.of_honours (hi.lift_bind ?_) (Nat.zero_le _)))
  rintro _ _ w' ⟨⟨hr', rfl, ⟨x, rfl⟩, hv'⟩, hs', -⟩
  exact ⟨.inl rfl, rfl, rfl, ⟨hr', ⟨hs'.store_lt, hs'.fresh⟩, nofun⟩, hv'⟩

theorem restart_begins (hw : w.Placed) (hv : (w.console w.current).view.Coherent .unknown)
    (ha : L.alone) (hb : ¬L.settled)
    (hm : (w.console w.current).view.sight.credential = none ∨ 0 < L.mark) :
    Begins L (w.next + 1) 0 restart.run w :=
  .read_bind (start_begins _ _ hw.reliable hw.seated.fresh (Profile.blank_sound hv.sound.timely) ha hb
    (hm.imp_left (Profile.credential_blank hv.sound)))

theorem logout_begins (hw : w.Placed) (hv : (w.console w.current).view.Coherent .unknown) :
    Begins L w.next 0 logout.run w := by
  refine .of_atOnce ((logout_ends hw hv).mono ?_)
  rintro _ w' ⟨hp, hn, v, hs, hc, _, _, -, hv'⟩
  refine ⟨rfl, hn, hp, ?_⟩
  rw [hv']
  exact ⟨Console.settled_coherent hs nofun, fun _ ↦ rfl, fun _ ↦ ⟨hc, nofun⟩⟩

theorem Guarded.withForm (hw : w.Guarded k) (mode : FormMode) : (w.withForm w.current mode).Guarded k :=
  ⟨(Sound.withForm ⟨hw.placed, hw.heeds.coherent, trivial⟩ mode).placed, hw.heeds⟩

theorem Guarded.opening (hw : w.Guarded k) (hn : (w.forms n).client = w.current) :
    Guarded k { w with openForm := some n } :=
  ⟨(Sound.opening ⟨hw.placed, hw.heeds.coherent, trivial⟩ hn).placed, hw.heeds⟩

theorem openUserForm_begins (hs : L.settled) (hl : ¬L.lifted) (hw : w.Guarded L.mark) (mode : FormMode) :
    Begins L w.current (w.console w.current).context.signOuts (openUserForm mode).run w := by
  have ha := inClient_ends hw.placed.reliable hw.placed.seated (Console.isAuthenticated_ensures _)
  refine .read_bind (.atOnce_bind ha ?_)
  rintro signedIn w₁ ⟨⟨hr₁, -, hv₁⟩, hs₁, hb₁⟩
  have hk : (w.console w.current).context.signOuts = (w₁.console w.current).context.signOuts := by
    rw [← Console.signOuts_observed (w.console w.current).context]
    exact (congrArg (·.context.signOuts) hv₁).symm
  have hw₁ : w₁.Guarded L.mark := by
    refine ⟨hw.placed.beside hr₁ hs₁ hb₁, ?_⟩
    rw [hb₁.current, hv₁]
    exact Console.heeds_observed hw.heeds
  rw [← hb₁.current] at hk ⊢
  cases signedIn with
  | false => exact .of_honours (u := w) ⟨rfl, rfl, hw₁⟩ (Nat.le_of_eq hk)
  | true =>
    have hn := client_withForm w₁.current mode w₁
    have hp := inForm_honours (Desk.prepare_chore (Console.plain_allows L)) hs hl (hw₁.withForm mode) hn
    refine .allot_bind (.modify_bind (.of_honours (hp.lift_bind ?_) (Nat.le_of_eq hk)))
    rintro _ r w₂ ⟨⟨rfl, hc, hw₂⟩, hb₂⟩
    cases r with
    | error e => exact ⟨rfl, hc, hw₂⟩
    | ok _ =>
      refine ⟨.inl rfl, rfl, hc, hw₂.opening ?_⟩
      rw [hb₂.client, hc]
      exact hn

theorem Guarded.holds (hw : w.Guarded L.mark) : L.Holds (w.console w.current).view :=
  ⟨hw.heeds.coherent, fun _ ↦ hw.heeds.settled trivial, hw.heeds.lockedOut⟩

theorem inOpenForm_honours {t : DeskM α} (ht : Desk.Chore L.Allows t) (hs : L.settled) (hl : ¬L.lifted)
    (hw : w.Guarded L.mark) :
    (inOpenForm t).Honours (guarded L w.current w) (Ends L w.current) false w := by
  refine Task.Honours.bind (t := read Workspace.openForm)
    (Q := fun m o w' ↦ m = false ∧ w.openForm = o ∧ w = w') ⟨rfl, rfl, rfl⟩ ?_
  rintro _ o _ ⟨rfl, ho, rfl⟩
  cases o with
  | none => exact ⟨rfl, rfl, hw⟩
  | some n => exact (inForm_honours ht hs hl hw (hw.placed.client n ho)).bind fun _ _ _ h ↦ h.1

theorem viewForm_honours (f : Desk → α) (hw : w.Guarded L.mark) :
    (inOpenForm (Desk.read f)).Honours (guarded L w.current w) (Ends L w.current) false w := by
  refine Task.Honours.bind (t := read Workspace.openForm)
    (Q := fun m o w' ↦ m = false ∧ w.openForm = o ∧ w = w') ⟨rfl, rfl, rfl⟩ ?_
  rintro _ o _ ⟨rfl, ho, rfl⟩
  cases o with
  | none => exact ⟨rfl, rfl, hw⟩
  | some n => exact ⟨rfl, rfl, hw⟩

end Workspace

namespace Operation

open Workspace Console

variable {w : Workspace} {mark k : Nat}

theorem Chore.begins {t : WorkspaceM α} (ht : Chore L.Allows t) (hs : L.settled) (hl : ¬L.lifted)
    (hw : w.Guarded L.mark) : Begins L w.current (w.console w.current).context.signOuts t w := by
  cases ht with
  | inCurrent ht =>
    refine .inCurrent hw.placed ((ht.keeps (fun _ _ _ ↦ id) hl hw.holds).mono ?_)
    exact fun _ _ _ h ↦ ⟨h.1, h.2.coherent, fun _ ↦ h.2.settled hs, h.2.lockedOut⟩
  | inOpenForm ht => exact .of_honours (inOpenForm_honours ht hs hl hw) (Nat.le_refl _)
  | openForm mode => exact openUserForm_begins hs hl hw mode

def client : {α : Type} → Operation α → Workspace → Nat
  | _, restart, w => w.next + 1
  | _, logout, w => w.next
  | _, _, w => w.current

def tally : {α : Type} → Operation α → Workspace → Nat
  | _, restart, _ => 0
  | _, logout, _ => 0
  | _, _, w => (w.console w.current).context.signOuts

/-- A request that the user of a client spells out. -/
def Spells (op : Operation α) (r : Web.Request) : Prop := ∃ c, op.call? = some c ∧ c.request? = some r

def lockout (op : Operation α) (mark : Nat) (w : Workspace) : Lockout where
  mark := mark
  own := op.Spells
  settled := ¬op.IsSession
  lifted := op.IsLogin ∧ mark ≤ op.tally w
  alone := True

theorem IsLogin.isSession {op : Operation α} (h : op.IsLogin) : op.IsSession := by
  cases h with
  | login email password remember => exact .login email password remember
  | loginWith payload remember => exact .loginWith payload remember

theorem works_in_current {op : Operation α} (hs : ¬op.IsSession) :
    op.client w = w.current ∧ op.tally w = (w.console w.current).context.signOuts := by
  cases op with
  | restart => exact absurd .restart hs
  | logout => exact absurd .logout hs
  | _ => exact ⟨rfl, rfl⟩

theorem token_of_call? {op : Operation α} {c : Call} (h : op.call? = some c) : c.token = none := by
  cases op <;> cases h <;> rfl

theorem lockout_allows {op : Operation α} {c : Call} (h : op.call? = some c) :
    (op.lockout mark w).Allows c.method c.url c.body :=
  fun _ hr ↦ .inr ⟨c, h, by rw [Call.request?, token_of_call? h, hr]⟩

/-- Whoever is locked out is so from any mark on, and before the mark anybody may work. -/
theorem begins (op : Operation α) (hw : w.Guarded k)
    (hm : (w.console w.current).view.LockedOut ∨ op.tally w < mark) :
    Begins (op.lockout mark w) (op.client w) (op.tally w) op.task w := by
  have hv := hw.heeds.coherent
  -- What works in the current client finds it locked out, or has the mark still before it.
  have hlo (hm : (w.console w.current).view.LockedOut ∨
      (w.console w.current).context.signOuts < mark)
      (hn : mark ≤ (w.console w.current).context.signOuts) : (w.console w.current).view.LockedOut :=
    hm.resolve_right (Nat.not_lt.mpr hn)
  by_cases hs : op.IsSession
  · have hb : ¬(op.lockout mark w).settled := not_not_intro hs
    have hh (hn : mark ≤ (w.console w.current).context.signOuts →
        (w.console w.current).view.LockedOut) : (op.lockout mark w).Holds (w.console w.current).view :=
      ⟨hv, fun _ ↦ hw.heeds.settled trivial, hn⟩
    cases hs with
    | restart => exact restart_begins hw.placed hv trivial hb (hm.imp_left View.LockedOut.credential)
    | logout => exact logout_begins hw.placed hv
    | login email password remember =>
      exact .inCurrent hw.placed (login_keeps trivial hb (hh (hlo hm)) (⟨.login _ _ _, ·⟩) _ _ _)
    | loginWith payload remember =>
      exact .inCurrent hw.placed (loginWith_keeps trivial hb (hh (hlo hm)) (⟨.loginWith _ _, ·⟩) _ _)
    | signOut => exact .inCurrent hw.placed (signOut_keeps (hh (hlo hm)))
    | bootstrap => exact .inCurrent hw.placed (bootstrap_keeps trivial hb (hh (hlo hm)))
  · have hl : ¬(op.lockout mark w).lifted := fun h ↦ hs h.1.isSession
    obtain ⟨hc, ht⟩ := works_in_current (w := w) hs
    rw [ht] at hm
    rw [hc, ht]
    have hw : w.Guarded mark := ⟨hw.placed, hv, fun _ ↦ hw.heeds.settled trivial, hlo hm⟩
    by_cases hf : op.IsView
    · cases hf with
      | viewForm f => exact .of_honours (viewForm_honours f hw) (Nat.le_refl _)
    · exact (op.chore (plain_allows _) hs hf fun _ ↦ lockout_allows).begins hs hl hw

end Operation

end Backoffice
