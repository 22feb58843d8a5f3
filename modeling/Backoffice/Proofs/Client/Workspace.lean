import Backoffice.Proofs.Client.Operation
import Backoffice.Proofs.Task.AtOnce

namespace Backoffice

open Console (seen Ensures)
open Backoffice.Task (Steady)

variable {h : Holding} {α : Type}

namespace Workspace

variable {w w' w₀ : Workspace} {n : Nat}

theorem setAt_self (f : Nat → α) (n : Nat) (a : α) : setAt f n a n = a := if_pos rfl

theorem setAt_of_ne (f : Nat → α) {n m : Nat} (hm : m ≠ n) (a : α) : setAt f n a m = f m := if_neg hm

theorem console_putConsole (n : Nat) (c : Console) (w : Workspace) :
    (w.putConsole n c).console n = c := by
  simp only [console, putConsole, setAt_self]

theorem desk_putDesk (n : Nat) (d : Desk) (w : Workspace) : (w.putDesk n d).desk n = d := by
  simp only [desk, putDesk, setAt_self]
  exact congrArg (Desk.mk · d.mode d.form) (console_putConsole (w.forms n).client d.console w)

structure Seated (w : Workspace) (n : Nat) : Prop where
  store_lt : (w.clients n).sessionStore < w.next
  fresh : ∀ m, w.next ≤ m → w.sessionStores m = ⟨[], []⟩

structure Beside (w w₀ : Workspace) : Prop where
  current : w.current = w₀.current
  openForm : w.openForm = w₀.openForm
  next : w.next = w₀.next
  client : ∀ m, (w.forms m).client = (w₀.forms m).client

theorem Seated.putConsole (hw : w.Seated n) (c : Console) : (w.putConsole n c).Seated n where
  store_lt := by simpa only [Workspace.putConsole, setAt_self] using hw.store_lt
  fresh m hm := by
    have hne : m ≠ (w.clients n).sessionStore := by
      have hlt := hw.store_lt
      simp only [Workspace.putConsole] at hm
      omega
    simpa only [Workspace.putConsole, setAt_of_ne _ hne] using hw.fresh m hm

theorem Beside.putConsole (hw : w.Beside w₀) (n : Nat) (c : Console) :
    (w.putConsole n c).Beside w₀ :=
  ⟨hw.current, hw.openForm, hw.next, hw.client⟩

theorem Beside.putDesk (hw : w.Beside w₀) (n : Nat) (d : Desk) : (w.putDesk n d).Beside w₀ where
  current := hw.current
  openForm := hw.openForm
  next := hw.next
  client m := by
    rw [← hw.client m]
    by_cases hm : m = n
    · subst hm
      simp only [Workspace.putDesk, setAt_self]
    · simp only [Workspace.putDesk, setAt_of_ne _ hm]
      rfl

namespace Ticks

variable {k : Clock} (ht : w.Ticks k w')

include ht

theorem seated (hw : w.Seated n) : w'.Seated n := by
  rw [ht.only_host]
  exact ⟨hw.store_lt, hw.fresh⟩

theorem beside (hw : w.Beside w₀) : w'.Beside w₀ := by
  rw [ht.only_host]
  exact ⟨hw.current, hw.openForm, hw.next, hw.client⟩

theorem console (n : Nat) : w'.console n =
    ⟨⟨w'.host, (w.console n).profile.cookies, (w.console n).profile.session⟩,
      (w.console n).context⟩ := by
  rw [ht.only_host]
  rfl

theorem reliable (hw : (w.console n).Reliable) : (w'.console n).Reliable := by
  have hd : w'.host.durable = w.host.durable := by rw [ht.host.only_now]
  change w'.host.durable.Reliable
  rw [hd]
  exact hw

theorem ages (n : Nat) : (w.console n).view.sight.Ages k (w'.console n).view.sight := by
  rw [ht.console n]
  exact ht.host.ages _ _

end Ticks

theorem Ticks.spares (ht : w.Ticks h.clock w') (n : Nat) :
    h.Spares (w.console n).view.sight.credential (w'.console n).view.sight.credential :=
  (ht.ages n).spares

theorem Ticks.holds (ht : w.Ticks h.clock w') (hw : h.Holds (w.console n).view) :
    h.Holds (w'.console n).view := by
  have hs := ht.spares n
  have hx : (w'.console n).view.context = (w.console n).view.context := by
    rw [ht.console n]
    rfl
  refine ⟨⟨⟨ht.host.timely hw.1.sound.timely, (ht.ages n).filled hw.1.sound.filled⟩, ?_, ?_⟩, ?_⟩
  · rw [hx]
    exact hw.1.seen_le
  · intro hk
    rw [hx, hs.eq_of_sparing hk]
    exact hw.1.credential hk
  · exact hw.2.spares hs

def alone (h : Holding) : Terms Workspace where
  holds := fun _ ↦ True
  rely := Ticks h.clock
  sends := h.Sends
  refl := Ticks.refl h.clock
  trans := Ticks.trans

theorem zooms_client (n : Nat) (w₀ : Workspace) :
    Task.Zooms (console n) (putConsole n) (fun w ↦ w.Seated n ∧ w.Beside w₀) (seen h.alone)
      (alone h) where
  part_put := console_putConsole n
  frame_put c _ hw := ⟨hw.1.putConsole c, hw.2.putConsole n c⟩
  holds _ _ := trivial
  rely hw hf ht _ := ⟨⟨ht.reliable hw.1, ht.holds hw.2⟩, ht.spares n, ht.seated hf.1, ht.beside hf.2⟩
  sends := id

theorem inClient_safe {t : ConsoleM α} {Q : α → View → Prop} (hr : (w.console n).Reliable)
    (hw : w.Seated n) (ht : Ensures h.alone t (w.console n).view Q) :
    (inClient n t).Safe (alone h) (fun a w' ↦ ((w'.console n).Reliable ∧ Q a (w'.console n).view) ∧
      w'.Seated n ∧ w'.Beside w) w :=
  Task.Safe.zoom (zooms_client n w) (ht.safe _ hr rfl) ⟨hw, rfl, rfl, rfl, fun _ ↦ rfl⟩

theorem inClient_ends {t : ConsoleM α} {Q : α → View → Prop} (hr : (w.console n).Reliable)
    (hw : w.Seated n) (ht : Ensures .atOnce t (w.console n).view Q) :
    (inClient n t).AtOnce (fun a w' ↦ ((w'.console n).Reliable ∧ Q a (w'.console n).view) ∧
      w'.Seated n ∧ w'.Beside w) w := by
  have hz : Task.Zooms (console n) (putConsole n) (fun w' ↦ w'.Seated n ∧ w'.Beside w)
      (seen .atOnce) .atOnce := by
    refine ⟨console_putConsole n, fun c _ hw ↦ ⟨hw.1.putConsole c, hw.2.putConsole n c⟩, ?_, ?_, id⟩
    · exact fun h _ ↦ h.2
    · exact fun h _ _ _ ↦ h.2.elim
  exact Task.Safe.zoom hz (ht.safe _ hr rfl) ⟨hw, rfl, rfl, rfl, fun _ ↦ rfl⟩

theorem zooms_form (n client : Nat) (w₀ : Workspace) (hc : (w₀.forms n).client = client) :
    Task.Zooms (desk n) (putDesk n) (fun w ↦ w.Seated client ∧ w.Beside w₀) (Desk.amid h)
      (alone h) where
  part_put := desk_putDesk n
  frame_put d w hw := by
    have hn : (w.forms n).client = client := by rw [hw.2.client n, hc]
    have hs := hw.1.putConsole d.console
    refine ⟨?_, hw.2.putDesk n d⟩
    simp only [putDesk, hn]
    exact ⟨hs.store_lt, hs.fresh⟩
  holds _ _ := trivial
  rely {w w'} hw hf ht _ := by
    have hn : (w.forms n).client = client := by rw [hf.2.client n, hc]
    have hn' : (w'.forms n).client = client := by rw [(ht.beside hf.2).client n, hc]
    refine ⟨?_, trivial, ht.seated hf.1, ht.beside hf.2⟩
    have hd : (w.desk n).console = w.console client := by rw [desk, hn]
    have hd' : (w'.desk n).console = w'.console client := by rw [desk, hn']
    change (seen h.amid).holds (w'.desk n).console
    have hw : (seen h.amid).holds (w.desk n).console := hw
    rw [hd] at hw
    rw [hd']
    exact ⟨ht.reliable hw.1, ht.holds hw.2⟩
  sends := id

theorem inForm_safe {t : DeskM α} (hr : (w.console (w.forms n).client).Reliable)
    (hh : h.Holds (w.console (w.forms n).client).view) (hw : w.Seated (w.forms n).client)
    (ht : Steady (Desk.amid h) t) :
    (inForm n t).Safe (alone h) (fun _ w' ↦ ((w'.console (w.forms n).client).Reliable ∧
      h.Holds (w'.console (w.forms n).client).view) ∧ w'.Seated (w.forms n).client ∧
      w'.Beside w) w := by
  apply Task.Safe.mono (Task.Safe.zoom (zooms_form n _ w rfl) (ht.safe (w.desk n) ⟨hr, hh⟩)
    ⟨hw, rfl, rfl, rfl, fun _ ↦ rfl⟩)
  intro _ w' hq
  obtain ⟨hd, hs, hb⟩ := hq
  refine ⟨?_, hs, hb⟩
  have hc : (w'.desk n).console = w'.console (w.forms n).client := by rw [desk, hb.client n]
  have hd : (seen h.amid).holds (w'.desk n).console := hd
  rwa [hc] at hd

/-- A workspace whose current client has a store that refuses nothing and a session store of its own,
and whose open form was opened in that client. -/
structure Placed (w : Workspace) : Prop where
  reliable : (w.console w.current).Reliable
  seated : w.Seated w.current
  client : ∀ n, w.openForm = some n → (w.forms n).client = w.current

structure Sound (h : Holding) (w : Workspace) : Prop where
  placed : w.Placed
  holds : h.Holds (w.console w.current).view

theorem Placed.beside (hw : w₀.Placed) (hr : (w.console w₀.current).Reliable)
    (hs : w.Seated w₀.current) (hb : w.Beside w₀) : w.Placed := by
  rw [← hb.current] at hr hs
  refine ⟨hr, hs, fun n hn ↦ ?_⟩
  rw [hb.openForm] at hn
  rw [hb.client n, hb.current, hw.client n hn]

theorem inCurrent_safe {t : ConsoleM α} {Q : α → View → Prop} (hw : w.Placed)
    (ht : Ensures h.alone t (w.console w.current).view Q) :
    (inCurrent t).Safe (alone h) (fun a w' ↦ w'.Placed ∧ Q a (w'.console w'.current).view) w := by
  apply Task.Safe.mono (inClient_safe hw.reliable hw.seated ht)
  intro a w' hp
  obtain ⟨⟨hr, hq⟩, hs, hb⟩ := hp
  refine ⟨hw.beside hr hs hb, ?_⟩
  rwa [hb.current]

theorem Sound.inCurrent {t : ConsoleM α} (hw : w.Sound h)
    (ht : Ensures h.alone t (w.console w.current).view fun _ ↦ h.Holds) :
    (inCurrent t).Safe (alone h) (fun _ ↦ Sound h) w :=
  Task.Safe.mono (inCurrent_safe hw.placed ht) fun _ _ hw' ↦ ⟨hw'.1, hw'.2⟩

theorem Sound.inCurrent_steady {t : ConsoleM α} (hw : w.Sound h) (ht : Steady (seen h.amid) t) :
    (Workspace.inCurrent t).Safe (alone h) (fun _ ↦ Sound h) w :=
  hw.inCurrent (Console.steady_iff.mp ht _ hw.holds).alone

theorem Sound.inForm {t : DeskM α} (hw : w.Sound h) (hn : (w.forms n).client = w.current)
    (ht : Steady (Desk.amid h) t) :
    (inForm n t).Safe (alone h) (fun _ w' ↦ w'.Sound h ∧ w'.Beside w) w := by
  have hr := hw.placed.reliable
  have hs := hw.placed.seated
  have hh := hw.holds
  rw [← hn] at hr hs hh
  apply Task.Safe.mono (inForm_safe hr hh hs ht)
  intro _ w' hq
  obtain ⟨⟨hr', hh'⟩, hs', hb⟩ := hq
  rw [hn] at hr' hh' hs'
  rw [← hb.current] at hh'
  exact ⟨⟨hw.placed.beside hr' hs' hb, hh'⟩, hb⟩

theorem Sound.inOpenForm {t : DeskM α} (hw : w.Sound h) (ht : Steady (Desk.amid h) t) :
    (inOpenForm t).Safe (alone h) (fun _ ↦ Sound h) w := by
  apply Task.Safe.bind (t := read Workspace.openForm) (R := fun o w' ↦ w.openForm = o ∧ w = w')
  · exact ⟨rfl, rfl⟩
  · intro o _ hq
    obtain ⟨ho, rfl⟩ := hq
    cases o with
    | none => exact hw
    | some n => exact (hw.inForm (hw.placed.client n ho) ht).bind fun _ _ hw' ↦ hw'.1

variable {ε : Type} {β : Type} {T : Terms Workspace} {Q : Except ε β → Workspace → Prop}

theorem read_bind {f : Workspace → α} {g : α → ExceptT ε WorkspaceM β}
    (hg : (g (f w)).run.Safe T Q w) : (ExceptT.lift (read f) >>= g).run.Safe T Q w := hg

theorem modify_bind {f : Workspace → Workspace} {g : Unit → ExceptT ε WorkspaceM β}
    (hg : (g ()).run.Safe T Q (f w)) : (ExceptT.lift (modify f) >>= g).run.Safe T Q w := hg

theorem allot_bind {g : Nat → ExceptT ε WorkspaceM β}
    (hg : (g w.next).run.Safe T Q { w with next := w.next + 1 }) :
    (ExceptT.lift allot >>= g).run.Safe T Q w := hg

def withClient (store : Nat) (context : Context) (w : Workspace) : Workspace :=
  { w with next := w.next + 1, clients := setAt w.clients w.next ⟨store, context⟩ }

theorem addClient_bind {store : Nat} {context : Context} {g : Nat → ExceptT ε WorkspaceM β}
    (hg : (g w.next).run.Safe T Q (w.withClient store context)) :
    (ExceptT.lift (addClient store context) >>= g).run.Safe T Q w := hg

theorem console_withClient (store : Nat) (context : Context) (w : Workspace) :
    (w.withClient store context).console w.next =
      ⟨⟨w.host, (w.sessionStores store).cookies, (w.sessionStores store).session⟩, context⟩ := by
  simp only [console, withClient, setAt_self]

theorem seated_withClient {store : Nat} (context : Context) (hs : store < w.next)
    (hf : ∀ m, w.next ≤ m → w.sessionStores m = ⟨[], []⟩) :
    (w.withClient store context).Seated w.next where
  store_lt := by
    simp only [withClient, setAt_self]
    omega
  fresh m hm := hf m (Nat.le_of_succ_le hm)

def withFresh (config : Config) (hostName : String) (w : Workspace) : Workspace :=
  withClient w.next (.fresh config hostName) { w with next := w.next + 1 }

theorem console_withFresh (config : Config) (hostName : String)
    (hf : w.sessionStores w.next = ⟨[], []⟩) :
    (w.withFresh config hostName).console (w.next + 1) = ⟨.blank w.host, .fresh config hostName⟩ := by
  refine (console_withClient _ _ _).trans ?_
  simp only [hf, Profile.blank]

theorem seated_withFresh (config : Config) (hostName : String)
    (hf : ∀ m, w.next ≤ m → w.sessionStores m = ⟨[], []⟩) :
    (w.withFresh config hostName).Seated (w.next + 1) :=
  seated_withClient _ (Nat.lt_succ_self _) fun m hm ↦ hf m (Nat.le_of_succ_le hm)

theorem start_safe (hh : h ≠ .held) (config : Config) (hostName : String)
    (hr : w.host.durable.Reliable) (hf : ∀ m, w.next ≤ m → w.sessionStores m = ⟨[], []⟩)
    (hv : h.Holds ⟨Profile.sight (.blank w.host), .fresh config hostName⟩) :
    (start config hostName).run.Safe (alone h) (fun _ ↦ Sound h) w := by
  have hc := console_withFresh config hostName (hf _ (Nat.le_refl _))
  have he : Ensures h.alone Console.start.run ((w.withFresh config hostName).console (w.next + 1)).view
      fun r v ↦ (∃ s, r = .ok s) ∧ h.Holds v := by
    rw [hc]
    exact Console.start_ensures hh hv
  refine allot_bind (addClient_bind (Task.Safe.lift_bind
    (inClient_safe (hc ▸ hr) (seated_withFresh config hostName hf) he) ?_))
  intro r w' hq
  obtain ⟨⟨hr', ⟨s, rfl⟩, hh'⟩, hs', -⟩ := hq
  exact modify_bind ⟨⟨hr', ⟨hs'.store_lt, hs'.fresh⟩, nofun⟩, hh'⟩

theorem holds_blank {c : Console} (hc : h.Holds c.view) (hh : h ≠ .held) (config : Config)
    (hostName : String) :
    h.Holds ⟨Profile.sight (.blank c.profile.host), .fresh config hostName⟩ := by
  refine ⟨⟨Profile.blank_sound hc.1.sound.timely, Nat.le_refl _, nofun⟩, ?_⟩
  cases h with
  | unknown => trivial
  | bare => exact Profile.credential_blank hc.1.sound hc.2
  | backed => trivial
  | held => exact absurd rfl hh

theorem restart_safe (hh : h ≠ .held) (hw : w.Sound h) :
    restart.run.Safe (alone h) (fun _ ↦ Sound h) w :=
  read_bind (start_safe hh _ _ hw.placed.reliable hw.placed.seated.fresh
    (holds_blank hw.holds hh _ _))

/-- Who signs out is followed by a client without a credential. -/
theorem logout_ends (hw : w.Placed) (hv : (w.console w.current).view.Coherent .unknown) :
    logout.run.AtOnce (fun _ w' ↦ w'.Placed ∧ w'.current = w.next ∧
      ∃ v : View, v.sight.Sound ∧ v.sight.credential = none ∧
        ∃ config hostName, v.context = .fresh config hostName ∧
          (w'.console w'.current).view = Console.settled v .unauthenticated) w := by
  -- The new client takes over the session store, so what the old one left in it still counts.
  let w₁ : Workspace := { w with openForm := none }
  have hs : w₁.Seated w.current := ⟨hw.seated.store_lt, hw.seated.fresh⟩
  refine read_bind (modify_bind (Task.Safe.lift_bind (inClient_ends (w := w₁) hw.reliable hs
    (Console.signOut_ensures hv)) ?_))
  rintro _ w₂ ⟨⟨hr₂, rfl, hv₂, hc₂⟩, hs₂, hb₂⟩
  let seat := w₂.clients w.current
  have hc : (w₂.withClient seat.sessionStore seat.context).console w₂.next =
      w₂.console w.current :=
    console_withClient _ _ _
  have hs₃ := seated_withClient seat.context hs₂.store_lt hs₂.fresh
  rw [← hc] at hr₂ hv₂ hc₂
  refine read_bind (addClient_bind (Task.Safe.lift_bind
    (inClient_ends hr₂ hs₃ (Console.reload_unsigned hc₂)) ?_))
  rintro _ w₄ ⟨⟨hr₄, hv₄⟩, hs₄, hb₄⟩
  refine ⟨⟨hr₄, ⟨hs₄.store_lt, hs₄.fresh⟩, fun n hn ↦ ?_⟩, hb₂.next,
    ⟨_, .fresh _ _⟩, hv₂.sound, hc₂, _, _, rfl, hv₄⟩
  have ho : w₄.openForm = none := hb₄.openForm.trans hb₂.openForm
  cases ho.symm.trans hn

theorem logout_safe (hh : h ≠ .held) (hw : w.Sound h) :
    logout.run.Safe (alone h) (fun _ ↦ Sound h) w := by
  have hv : (w.console w.current).view.Coherent .unknown := hw.holds.1.of_clock nofun
  refine (logout_ends hw.placed hv).safe.mono ?_
  rintro _ w' ⟨hp, -, v, hs, hc, -, -, -, hv'⟩
  refine ⟨hp, ?_⟩
  rw [hv']
  exact ⟨Console.settled_coherent hs nofun, .of_none hh hc⟩

def withForm (client : Nat) (mode : FormMode) (w : Workspace) : Workspace :=
  { w with next := w.next + 1, forms := setAt w.forms w.next ⟨client, mode, .blank⟩ }

theorem client_withForm (client : Nat) (mode : FormMode) (w : Workspace) :
    ((w.withForm client mode).forms w.next).client = client := by
  simp only [withForm, setAt_self]

theorem Sound.withForm (hw : w.Sound h) (mode : FormMode) :
    (w.withForm w.current mode).Sound h := by
  refine ⟨⟨hw.placed.reliable, ⟨?_, ?_⟩, fun n hn ↦ ?_⟩, hw.holds⟩
  · exact Nat.lt_succ_of_lt hw.placed.seated.store_lt
  · exact fun m hm ↦ hw.placed.seated.fresh m (Nat.le_of_succ_le hm)
  · by_cases hm : n = w.next
    · subst hm
      exact client_withForm _ mode w
    · simp only [Workspace.withForm, setAt_of_ne _ hm]
      exact hw.placed.client n hn

theorem Sound.opening (hw : w.Sound h) (hn : (w.forms n).client = w.current) :
    Sound h { w with openForm := some n } := by
  refine ⟨⟨hw.placed.reliable, ⟨hw.placed.seated.store_lt, hw.placed.seated.fresh⟩, ?_⟩, hw.holds⟩
  intro m hm
  cases hm
  exact hn

theorem openUserForm_safe (hh : h ≠ .held) (hw : w.Sound h) (mode : FormMode) :
    (openUserForm mode).run.Safe (alone h) (fun _ ↦ Sound h) w := by
  have ha := inClient_safe hw.placed.reliable hw.placed.seated
    (Console.steady_iff.mp (Console.isAuthenticated_chore.steady hh) _ hw.holds).alone
  refine read_bind (Task.Safe.lift_bind ha ?_)
  intro signedIn w₁ hq
  obtain ⟨⟨hr₁, hh₁⟩, hs₁, hb₁⟩ := hq
  have hp₁ : w₁.Placed := hw.placed.beside hr₁ hs₁ hb₁
  rw [← hb₁.current] at hh₁ ⊢
  have hw₁ : w₁.Sound h := ⟨hp₁, hh₁⟩
  cases signedIn with
  | false => exact hw₁
  | true =>
    have hn := client_withForm w₁.current mode w₁
    have hf := (hw₁.withForm mode).inForm hn ((Desk.prepare_chore .free).steady hh)
    refine allot_bind (modify_bind (Task.Safe.lift_bind hf ?_))
    intro r w₂ hq
    obtain ⟨hw₂, hb₂⟩ := hq
    cases r with
    | error e => exact hw₂
    | ok _ =>
      apply modify_bind
      refine hw₂.opening ?_
      rw [hb₂.client, hb₂.current]
      exact hn

end Workspace

end Backoffice
