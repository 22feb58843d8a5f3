import Mathlib.Logic.Function.Basic
import Mathlib.Logic.Relation
import Backoffice.Client.ReferenceData

namespace Backoffice

variable {α : Type}

abbrev Loaded (α : Type) := Except ClientError (List α)

/-- How far a caller is: `shared` is the outcome of the load of another, `fetched` of a load of its own. -/
inductive Caller (α : Type) where
  | absent
  | ready
  | waiting
  | owed (x : Loaded α)
  | fetching
  | shared (x : Loaded α)
  | fetched (x : Loaded α)

namespace Caller

def result? : Caller α → Option (Loaded α)
  | shared x => some x
  | fetched x => some x
  | _ => none

def InLine (c : Caller α) : Prop := c = waiting ∨ ∃ x, c = owed x

def told (x : Loaded α) : Caller α → Caller α
  | waiting => owed x
  | c => c

theorem result?_told (x : Loaded α) (c : Caller α) : (c.told x).result? = c.result? := by
  cases c <;> rfl

theorem inLine_told (x : Loaded α) (c : Caller α) : (c.told x).InLine ↔ c.InLine := by
  cases c <;> simp [InLine, told]

theorem told_ne_waiting (x : Loaded α) (c : Caller α) : c.told x ≠ waiting := by
  cases c <;> simp [told]

theorem told_eq_fetching {x : Loaded α} {c : Caller α} : c.told x = fetching ↔ c = fetching := by
  cases c <;> simp [told]

end Caller

def Slot.landed : Loaded α → Slot α → Slot α
  | .ok items => Slot.loaded items
  | .error e => Slot.failed e

/-- The callers of one list, by their places, and the line of those that wait. -/
structure Airfield (α : Type) where
  caller : Nat → Caller α
  slot : Slot α
  line : List Nat

namespace Airfield

def start (slot : Slot α) : Airfield α := ⟨fun _ ↦ .absent, slot, []⟩

def set (d : Airfield α) (n : Nat) (c : Caller α) : Airfield α :=
  { d with caller := Function.update d.caller n c }

def queue (d : Airfield α) (n : Nat) : Airfield α := { d.set n .waiting with line := d.line ++ [n] }

def share (d : Airfield α) (n : Nat) (x : Loaded α) : Airfield α :=
  { d.set n (.shared x) with line := d.line.tail }

def depart (d : Airfield α) (n : Nat) : Airfield α :=
  { d.set n .fetching with slot := d.slot.loading, line := d.line.tail }

def land (d : Airfield α) (n : Nat) (x : Loaded α) : Airfield α :=
  { d with caller := Function.update (fun i ↦ (d.caller i).told x) n (.fetched x), slot := d.slot.landed x }

inductive Step (d : Airfield α) : Airfield α → Prop
  | join {n : Nat} (h : d.caller n = .absent) : Step d (d.set n .ready)
  | serve {n : Nat} (h : d.caller n = .ready) (hl : d.slot.list.loaded = true) :
      Step d (d.set n (.shared (.ok d.slot.list.items)))
  | queue {n : Nat} (h : d.caller n = .ready) (hl : d.slot.list.loaded = false) : Step d (d.queue n)
  | share {n : Nat} {x : Loaded α} (h : d.caller n = .owed x) (hl : d.line.head? = some n) :
      Step d (d.share n x)
  | depart {n : Nat} (h : d.caller n = .waiting) (hl : d.line.head? = some n)
      (hf : ∀ i, d.caller i ≠ .fetching) : Step d (d.depart n)
  | land {n : Nat} {x : Loaded α} (h : d.caller n = .fetching) : Step d (d.land n x)

/-- What is true of an airfield after any steps. Whoever is owed an outcome stands before those who wait. -/
structure Sound (d : Airfield α) : Prop where
  nodup : d.line.Nodup
  mem : ∀ i, i ∈ d.line ↔ (d.caller i).InLine
  fore : d.line.Pairwise fun i j ↦ d.caller i = .waiting → d.caller j = .waiting
  single : ∀ i j, d.caller i = .fetching → d.caller j = .fetching → i = j
  calm : ∀ i j x, d.caller i = .fetching → d.caller j ≠ .owed x
  unloaded : ∀ i, d.caller i = .waiting ∨ d.caller i = .fetching → d.slot.list.loaded = false

variable {d d' : Airfield α} {n : Nat} {x : Loaded α}

theorem caller_set (d : Airfield α) (n : Nat) (c : Caller α) (i : Nat) :
    (d.set n c).caller i = if i = n then c else d.caller i := Function.update_apply ..

theorem exists_fetching_set {c : Caller α} (hn : d.caller n ≠ .fetching) (hc : c ≠ .fetching) :
    (∃ i, (d.set n c).caller i = .fetching) ↔ ∃ i, d.caller i = .fetching := by
  refine exists_congr fun i ↦ ?_
  rw [caller_set]
  split
  · next he => exact iff_of_false hc (he ▸ hn)
  · rfl

theorem caller_land (d : Airfield α) (n : Nat) (x : Loaded α) (i : Nat) :
    (d.land n x).caller i = if i = n then .fetched x else (d.caller i).told x :=
  Function.update_apply (fun i ↦ (d.caller i).told x) n _ i

theorem sound_start (slot : Slot α) : (start slot).Sound := by
  refine ⟨List.nodup_nil, fun i ↦ ?_, List.Pairwise.nil, nofun, nofun, ?_⟩
  · simp [start, Caller.InLine]
  · simp [start]

namespace Sound

theorem set (h : d.Sound) {c : Caller α} (hn : ¬(d.caller n).InLine) (hc : ¬c.InLine)
    (hf : c = .fetching → d.caller n = .fetching) : (d.set n c).Sound := by
  have hl : ∀ i ∈ d.line, i ≠ n := by
    rintro i hi rfl
    exact hn ((h.mem i).mp hi)
  have hw : ∀ {i}, (d.set n c).caller i = .waiting → d.caller i = .waiting := by
    intro i hi
    rw [caller_set] at hi
    split at hi
    · exact (hc (.inl hi)).elim
    · exact hi
  have hfetch : ∀ {i}, (d.set n c).caller i = .fetching → d.caller i = .fetching := by
    intro i hi
    rw [caller_set] at hi
    split at hi
    · next he => exact he ▸ hf hi
    · exact hi
  refine {
    nodup := h.nodup
    mem := fun i ↦ ?mem
    fore := ?fore
    single := fun i j hi hj ↦ h.single i j (hfetch hi) (hfetch hj)
    calm := ?calm
    unloaded := fun i hi ↦ h.unloaded i (hi.imp hw hfetch) }
  case mem =>
    rw [caller_set]
    split
    · next he =>
      subst he
      exact iff_of_false (fun hi ↦ hl i hi rfl) hc
    · exact h.mem i
  case fore =>
    refine h.fore.imp_of_mem fun {i j} _ hj hij hi ↦ ?_
    rw [caller_set, if_neg (hl j hj)]
    exact hij (hw hi)
  case calm =>
    intro i j y hi hj
    rw [caller_set] at hj
    split at hj
    · exact hc (.inr ⟨y, hj⟩)
    · exact h.calm i j y (hfetch hi) hj

theorem queued (h : d.Sound) (hn : d.caller n = .ready) (hl : d.slot.list.loaded = false) :
    (d.queue n).Sound := by
  have hout : n ∉ d.line := by
    intro hi
    simpa [hn, Caller.InLine] using (h.mem n).mp hi
  have hne : ∀ i ∈ d.line, i ≠ n := by
    rintro i hi rfl
    exact hout hi
  have hcaller : ∀ i, (d.queue n).caller i = if i = n then .waiting else d.caller i := d.caller_set n _
  have hfetch : ∀ {i}, (d.queue n).caller i = .fetching → d.caller i = .fetching := by
    intro i hi
    rw [hcaller] at hi
    split at hi
    · cases hi
    · exact hi
  refine {
    nodup := ?nodup
    mem := fun i ↦ ?mem
    fore := ?fore
    single := fun i j hi hj ↦ h.single i j (hfetch hi) (hfetch hj)
    calm := ?calm
    unloaded := fun _ _ ↦ hl }
  case nodup =>
    refine List.nodup_append.mpr ⟨h.nodup, List.pairwise_singleton _ n, fun i hi j hj ↦ ?_⟩
    exact List.mem_singleton.mp hj ▸ hne i hi
  case mem =>
    rw [hcaller]
    split
    · next he => simp [he, queue, Caller.InLine]
    · next he => simpa [queue, he] using h.mem i
  case fore =>
    refine List.pairwise_append.mpr ⟨?_, List.pairwise_singleton _ n, ?_⟩
    · refine h.fore.imp_of_mem fun {i j} hi hj hij ↦ ?_
      rw [hcaller, hcaller, if_neg (hne i hi), if_neg (hne j hj)]
      exact hij
    · intro i _ j hj _
      rw [hcaller, if_pos (List.mem_singleton.mp hj)]
  case calm =>
    intro i j y hi hj
    rw [hcaller] at hj
    split at hj
    · cases hj
    · exact h.calm i j y (hfetch hi) hj

theorem not_owed (h : d.Sound) (hl : d.line.head? = some n) (hn : d.caller n = .waiting) (i : Nat)
    (y : Loaded α) : d.caller i ≠ .owed y := by
  intro hi
  obtain ⟨rest, hline⟩ := List.head?_eq_some_iff.mp hl
  have hfore := h.fore
  have hmem := (h.mem i).mpr (.inr ⟨y, hi⟩)
  rw [hline, List.pairwise_cons] at hfore
  rw [hline, List.mem_cons] at hmem
  have hwait : d.caller i = .waiting := hmem.elim (fun he ↦ he ▸ hn) fun hm ↦ hfore.1 i hm hn
  rw [hi] at hwait
  cases hwait

theorem left (h : d.Sound) (hl : d.line.head? = some n) {c : Caller α} (hc : ¬c.InLine)
    (hf : c = .fetching → d.caller n = .waiting ∧ ∀ i, d.caller i ≠ .fetching) :
    Sound { d.set n c with line := d.line.tail } := by
  obtain ⟨rest, hline⟩ := List.head?_eq_some_iff.mp hl
  have hnodup := h.nodup
  have hfore := h.fore
  rw [hline, List.nodup_cons] at hnodup
  rw [hline, List.pairwise_cons] at hfore
  have hne : ∀ i ∈ rest, i ≠ n := by
    rintro i hi rfl
    exact hnodup.1 hi
  have hset := d.caller_set n c
  have hfetch : ∀ {i}, (d.set n c).caller i = .fetching →
      d.caller i = .fetching ∨ i = n ∧ d.caller n = .waiting ∧ ∀ i, d.caller i ≠ .fetching := by
    intro i hi
    rw [hset] at hi
    split at hi
    · next he => exact .inr ⟨he, hf hi⟩
    · exact .inl hi
  refine {
    nodup := ?nodup
    mem := fun i ↦ ?mem
    fore := ?fore
    single := ?single
    calm := ?calm
    unloaded := ?unloaded }
  case nodup =>
    rw [hline]
    exact hnodup.2
  case mem =>
    change i ∈ d.line.tail ↔ ((d.set n c).caller i).InLine
    rw [hline, hset, List.tail_cons]
    split
    · next he => exact iff_of_false (he ▸ hnodup.1) hc
    · next he => rw [← h.mem i, hline, List.mem_cons, or_iff_right he]
  case fore =>
    change d.line.tail.Pairwise _
    rw [hline]
    refine hfore.2.imp_of_mem fun {i j} hi hj hij ↦ ?_
    change (d.set n c).caller i = _ → (d.set n c).caller j = _
    rw [hset, hset, if_neg (hne i hi), if_neg (hne j hj)]
    exact hij
  case single =>
    intro i j hi hj
    rcases hfetch hi with hi | ⟨hi, -, hno⟩
    · rcases hfetch hj with hj | ⟨-, -, hno⟩
      · exact h.single i j hi hj
      · exact absurd hi (hno i)
    · rcases hfetch hj with hj | ⟨hj, -, -⟩
      · exact absurd hj (hno j)
      · exact hi.trans hj.symm
  -- One who goes to fetch has waited, and whoever is owed an outcome would stand before him.
  case calm =>
    intro i j y hi hj
    change (d.set n c).caller j = _ at hj
    rw [hset] at hj
    split at hj
    · exact hc (.inr ⟨y, hj⟩)
    · rcases hfetch hi with hi | ⟨-, hw, -⟩
      · exact h.calm i j y hi hj
      · exact h.not_owed hl hw j y hj
  case unloaded =>
    intro i hi
    rcases hi with hi | hi
    · change (d.set n c).caller i = _ at hi
      rw [hset] at hi
      split at hi
      · exact (hc (.inl hi)).elim
      · exact h.unloaded i (.inl hi)
    · rcases hfetch hi with hi | ⟨-, hw, -⟩
      · exact h.unloaded i (.inr hi)
      · exact h.unloaded n (.inl hw)

theorem landed (h : d.Sound) (hn : d.caller n = .fetching) (x : Loaded α) : (d.land n x).Sound := by
  have hcaller := d.caller_land n x
  have hfetch : ∀ i, (d.land n x).caller i ≠ .fetching := by
    intro i hi
    rw [hcaller] at hi
    split at hi
    · cases hi
    · next hne => exact hne (h.single i n (Caller.told_eq_fetching.mp hi) hn)
  have hwait : ∀ i, (d.land n x).caller i ≠ .waiting := by
    intro i hi
    rw [hcaller] at hi
    split at hi
    · cases hi
    · exact Caller.told_ne_waiting x _ hi
  refine ⟨h.nodup, fun i ↦ ?_, h.fore.imp fun {i j} _ hi ↦ absurd hi (hwait i),
    fun i _ hi ↦ absurd hi (hfetch i), fun i _ _ hi ↦ absurd hi (hfetch i),
    fun i hi ↦ (hi.elim (hwait i) (hfetch i)).elim⟩
  change i ∈ d.line ↔ _
  rw [hcaller]
  split
  · next he =>
    subst he
    rw [h.mem i, hn]
    simp [Caller.InLine]
  · rw [Caller.inLine_told]
    exact h.mem i

theorem step (h : d.Sound) (hs : Step d d') : d'.Sound := by
  cases hs with
  | join hn => exact h.set (by simp [hn, Caller.InLine]) (by simp [Caller.InLine]) nofun
  | serve hn hl => exact h.set (by simp [hn, Caller.InLine]) (by simp [Caller.InLine]) nofun
  | queue hn hl => exact h.queued hn hl
  | share hn hl => exact h.left hl (by simp [Caller.InLine]) nofun
  | depart hn hl hf =>
    have hs := h.left (c := .fetching) hl (by simp [Caller.InLine]) fun _ ↦ ⟨hn, hf⟩
    exact ⟨hs.nodup, hs.mem, hs.fore, hs.single, hs.calm, hs.unloaded⟩
  | land hn => exact h.landed hn _

end Sound

structure Landing (d d' : Airfield α) (n : Nat) (x : Loaded α) : Prop where
  unresolved : (d.caller n).result? = none
  fetched : d'.caller n = .fetched x
  told : ∀ i, i ≠ n → d'.caller i = (d.caller i).told x
  alone : ∀ i, i ≠ n → d.caller i ≠ .fetching
  settled : ∀ i y, d.caller i ≠ .owed y
  unloaded : d.slot.list.loaded = false
  slot : ∃ s : Slot α, s.list.loaded = d.slot.list.loaded ∧ s.attempts = d.slot.attempts ∧
    d'.slot = s.landed x

theorem Sound.landing (h : d.Sound) (hn : d.caller n = .fetching) (x : Loaded α) :
    Landing d (d.land n x) n x where
  unresolved := by rw [hn]; rfl
  fetched := by rw [caller_land, if_pos rfl]
  told i hi := by rw [caller_land, if_neg hi]
  alone i hi hf := hi (h.single i n hf hn)
  settled i y := h.calm n i y hn
  unloaded := h.unloaded n (.inr hn)
  slot := ⟨d.slot, rfl, rfl, rfl⟩

namespace Landing

variable (h : Landing d d' n x)
include h

theorem attempts : d'.slot.attempts = d.slot.attempts + 1 := by
  obtain ⟨s, -, ha, hs⟩ := h.slot
  rw [hs, ← ha]
  cases x <;> rfl

theorem not_fetching (i : Nat) : d'.caller i ≠ .fetching := by
  by_cases hi : i = n
  · subst hi
    rw [h.fetched]
    nofun
  · rw [h.told i hi]
    exact mt Caller.told_eq_fetching.mp (h.alone i hi)

theorem not_waiting (i : Nat) : d'.caller i ≠ .waiting := by
  by_cases hi : i = n
  · subst hi
    rw [h.fetched]
    nofun
  · rw [h.told i hi]
    exact Caller.told_ne_waiting x _

theorem owed {i : Nat} {y : Loaded α} (hy : d'.caller i = .owed y) : y = x := by
  by_cases hi : i = n
  · subst hi
    rw [h.fetched] at hy
    cases hy
  · rw [h.told i hi] at hy
    cases hc : d.caller i with
    | waiting =>
      rw [hc] at hy
      cases hy
      rfl
    | owed z => exact (h.settled i z hc).elim
    | _ =>
      rw [hc] at hy
      cases hy

theorem owed_of_inLine {i : Nat} (hi : i ≠ n) (hl : (d.caller i).InLine) : d'.caller i = .owed x := by
  rw [h.told i hi]
  rcases hl with hl | ⟨y, hl⟩
  · rw [hl]
    rfl
  · exact (h.settled i y hl).elim

theorem result? {i : Nat} (hi : i ≠ n) : (d'.caller i).result? = (d.caller i).result? := by
  rw [h.told i hi, Caller.result?_told]

end Landing

/-- What one turn of a caller comes to. One who departs may land at once. -/
inductive Goes (d : Airfield α) : Airfield α → Prop
  | still : Goes d d
  | move {d' : Airfield α} (hs : Step d d') : Goes d d'
  | flash {n : Nat} {x : Loaded α} (h : d.caller n = .waiting) (hl : d.line.head? = some n)
      (hf : ∀ i, d.caller i ≠ .fetching) : Goes d ((d.depart n).land n x)

theorem Sound.goes (h : d.Sound) (hg : Goes d d') : d'.Sound := by
  cases hg with
  | still => exact h
  | move hs => exact h.step hs
  | flash hn hl hf =>
    exact (h.step (.depart hn hl hf)).landed (by rw [depart, caller_set, if_pos rfl]) _

inductive Moves (d : Airfield α) : Caller α → Caller α → Prop
  | join : Moves d .absent .ready
  | serve (hl : d.slot.list.loaded = true) : Moves d .ready (.shared (.ok d.slot.list.items))
  | queue (hl : d.slot.list.loaded = false) : Moves d .ready .waiting
  | share (x : Loaded α) : Moves d (.owed x) (.shared x)
  | depart : Moves d .waiting .fetching

structure Quiet (d d' : Airfield α) : Prop where
  slot : d'.slot = d.slot ∨ (∃ i, d.caller i = .waiting) ∧ d'.slot = d.slot.loading
  caller : ∀ i, d'.caller i = d.caller i ∨ Moves d (d.caller i) (d'.caller i)

theorem moves_set {c : Caller α} (h : Moves d (d.caller n) c) (i : Nat) :
    (d.set n c).caller i = d.caller i ∨ Moves d (d.caller i) ((d.set n c).caller i) := by
  rw [caller_set]
  split
  · next he => exact .inr (he ▸ h)
  · exact .inl rfl

theorem Goes.landing_or_quiet (hd : d.Sound) (h : Goes d d') :
    (∃ n x, Landing d d' n x) ∨ Quiet d d' := by
  cases h with
  | still => exact .inr ⟨.inl rfl, fun _ ↦ .inl rfl⟩
  | move hs =>
    cases hs with
    | join hn => exact .inr ⟨.inl rfl, moves_set (hn ▸ .join)⟩
    | serve hn hl => exact .inr ⟨.inl rfl, moves_set (hn ▸ .serve hl)⟩
    | queue hn hl => exact .inr ⟨.inl rfl, moves_set (hn ▸ .queue hl)⟩
    | share hn hl => exact .inr ⟨.inl rfl, moves_set (hn ▸ .share _)⟩
    | depart hn hl hf => exact .inr ⟨.inr ⟨⟨_, hn⟩, rfl⟩, moves_set (hn ▸ .depart)⟩
    | land hn => exact .inl ⟨_, _, hd.landing hn _⟩
  | @flash n x hn hl hf =>
    refine .inl ⟨n, x, ?_, ?_, fun i hi ↦ ?_, fun i _ ↦ hf i, hd.not_owed hl hn,
      hd.unloaded n (.inl hn), ⟨d.slot.loading, rfl, rfl, rfl⟩⟩
    · rw [hn]
      rfl
    · rw [caller_land, if_pos rfl]
    · rw [caller_land, if_neg hi, depart, caller_set, if_neg hi]

namespace Quiet

variable (h : Quiet d d')
include h

theorem attempts : d'.slot.attempts = d.slot.attempts := by
  rcases h.slot with he | ⟨-, he⟩ <;> exact congrArg (·.attempts) he

theorem loaded : d'.slot.list.loaded = d.slot.list.loaded := by
  rcases h.slot with he | ⟨-, he⟩ <;> exact congrArg (·.list.loaded) he

theorem items : d'.slot.list.items = d.slot.list.items := by
  rcases h.slot with he | ⟨-, he⟩ <;> exact congrArg (·.list.items) he

theorem fetching {i : Nat} (hi : d.caller i = .fetching) : d'.caller i = .fetching := by
  rcases h.caller i with he | hm
  · exact he.trans hi
  · rw [hi] at hm
    cases hm

theorem owed {i : Nat} (hi : d'.caller i = .owed x) : d.caller i = .owed x := by
  rcases h.caller i with he | hm
  · exact he.symm.trans hi
  · rw [hi] at hm
    generalize d.caller i = c at hm
    cases hm

theorem result {i : Nat} (hi : (d'.caller i).result? = some x) : (d.caller i).result? = some x ∨
    d.caller i = .owed x ∨ d.slot.list.loaded = true ∧ x = .ok d.slot.list.items := by
  rcases h.caller i with he | hm
  · exact .inl (he ▸ hi)
  · generalize hc : d.caller i = c at hm
    generalize d'.caller i = c' at hm hi
    cases hm with
    | serve hl => exact .inr (.inr ⟨hl, (Option.some.inj hi).symm⟩)
    | share y => exact .inr (.inl (Option.some.inj hi ▸ rfl))
    | _ => cases hi

end Quiet

theorem Goes.landing_of_fetching (hd : d.Sound) (h : Goes d d') (hn : d.caller n = .fetching)
    (hx : (d'.caller n).result? = some x) : Landing d d' n x := by
  rcases h.landing_or_quiet hd with ⟨k, y, hl⟩ | hq
  · have hk : n = k := by
      by_contra hne
      exact hl.alone n hne hn
    subst hk
    rw [hl.fetched] at hx
    cases hx
    exact hl
  · rw [hq.fetching hn] at hx
    cases hx

abbrev Runs : Airfield α → Airfield α → Prop := Relation.ReflTransGen Goes

theorem Sound.runs (h : d.Sound) (hr : Runs d d') : d'.Sound := by
  induction hr with
  | refl => exact h
  | tail _ hg ih => exact ih.goes hg

theorem Goes.gets (hd : d.Sound) (hg : Goes d d') {i : Nat}
    (h : d.caller i = .owed x ∨ d.caller i = .shared x) :
    d'.caller i = .owed x ∨ d'.caller i = .shared x := by
  rcases hg.landing_or_quiet hd with ⟨k, y, hl⟩ | hq
  · rcases h with h | h
    · exact (hl.settled i x h).elim
    · have hk : i ≠ k := by
        rintro rfl
        have hr := hl.unresolved
        rw [h] at hr
        cases hr
      rw [hl.told i hk, h]
      exact .inr rfl
  · rcases hq.caller i with he | hm
    · rwa [he]
    · generalize d'.caller i = c' at hm ⊢
      rcases h with h | h
      · rw [h] at hm
        cases hm
        exact .inr rfl
      · rw [h] at hm
        cases hm

theorem Runs.gets (hd : d.Sound) (hr : Runs d d') {i : Nat}
    (h : d.caller i = .owed x ∨ d.caller i = .shared x) :
    d'.caller i = .owed x ∨ d'.caller i = .shared x := by
  induction hr with
  | refl => exact h
  | tail hr hg ih => exact hg.gets (hd.runs hr) ih

structure Served (items : List α) (d : Airfield α) : Prop where
  loaded : d.slot.list.loaded = true
  slot_items : d.slot.list.items = items
  not_waiting : ∀ i, d.caller i ≠ .waiting
  not_fetching : ∀ i, d.caller i ≠ .fetching
  owed : ∀ i x, d.caller i = .owed x → x = .ok items

theorem Landing.served {items : List α} (h : Landing d d' n (.ok items)) : Served items d' := by
  obtain ⟨s, -, -, hs⟩ := h.slot
  exact ⟨hs ▸ rfl, hs ▸ rfl, h.not_waiting, h.not_fetching, fun _ _ hy ↦ h.owed hy⟩

theorem Landing.not_loaded {e : ClientError} (h : Landing d d' n (.error e)) :
    d'.slot.list.loaded = false := by
  obtain ⟨s, hl, -, hs⟩ := h.slot
  rw [hs]
  exact hl.trans h.unloaded

namespace Served

variable {items : List α}

structure Alike (items : List α) (d d' : Airfield α) : Prop where
  slot : d'.slot = d.slot
  caller : ∀ i, d'.caller i = d.caller i ∨
    (d.caller i).result? = none ∧ (d'.caller i = .ready ∨ d'.caller i = .shared (.ok items))

theorem Alike.of_ne (h : Alike items d d') {i : Nat} {c : Caller α} (hi : d'.caller i = c)
    (hr : c ≠ .ready) (hs : c ≠ .shared (.ok items)) : d.caller i = c := by
  rcases h.caller i with he | ⟨-, he | he⟩
  · exact he.symm.trans hi
  · exact (hr (hi.symm.trans he)).elim
  · exact (hs (hi.symm.trans he)).elim

theorem alike (h : Served items d) (hd : d.Sound) (hg : Goes d d') : Alike items d d' := by
  rcases hg.landing_or_quiet hd with ⟨k, y, hl⟩ | hq
  · have hloaded := hl.unloaded
    rw [h.loaded] at hloaded
    cases hloaded
  · refine ⟨hq.slot.resolve_right fun hw ↦ hw.1.elim h.not_waiting, fun i ↦ ?_⟩
    refine (hq.caller i).imp_right fun hm ↦ ?_
    generalize hc : d.caller i = c at hm
    generalize d'.caller i = c' at hm
    cases hm with
    | join => exact ⟨rfl, .inl rfl⟩
    | serve hl => exact ⟨rfl, .inr (by rw [h.slot_items])⟩
    | queue hl => simp [h.loaded] at hl
    | share x => exact ⟨rfl, .inr (by rw [h.owed i x hc])⟩
    | depart => exact (h.not_waiting i hc).elim

theorem of_alike (h : Served items d) (ha : Alike items d d') : Served items d' where
  loaded := ha.slot ▸ h.loaded
  slot_items := ha.slot ▸ h.slot_items
  not_waiting i hi := h.not_waiting i (ha.of_ne hi nofun nofun)
  not_fetching i hi := h.not_fetching i (ha.of_ne hi nofun nofun)
  owed i x hi := h.owed i x (ha.of_ne hi nofun nofun)

theorem runs (h : Served items d) (hd : d.Sound) (hr : Runs d d') : Alike items d d' := by
  induction hr with
  | refl => exact ⟨rfl, fun _ ↦ .inl rfl⟩
  | tail hr hg ih =>
    have ha := (h.of_alike ih).alike (hd.runs hr) hg
    refine ⟨ha.slot.trans ih.slot, fun i ↦ ?_⟩
    rcases ha.caller i with he | ⟨hn, hc⟩
    · rw [he]
      exact ih.caller i
    · rcases ih.caller i with he | ⟨hn', -⟩
      · exact .inr ⟨he ▸ hn, hc⟩
      · exact .inr ⟨hn', hc⟩

end Served

end Airfield

end Backoffice
