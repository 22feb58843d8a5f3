import Mathlib.Data.List.TakeWhile
import Backoffice.Storage.Durable
import Backoffice.Proofs.Text.ByteOrder

namespace Backoffice

namespace Table

variable {t : Table} {key value : String} {e : String × String}

def Ordered (t : Table) : Prop := t.Pairwise fun e f ↦ e.1 < f.1

theorem Ordered.nodup (h : Ordered t) : (t.map Prod.fst).Nodup :=
  List.pairwise_map.mpr (h.imp fun hlt heq ↦ absurd (heq ▸ hlt) (lt_irrefl _))

theorem mem_put (h : e ∈ t.put key value) : e = (key, value) ∨ e ∈ t := by
  induction t with
  | nil => exact .inl (List.mem_singleton.mp h)
  | cons f rest ih =>
    unfold put at h
    split at h
    · exact (List.mem_cons.mp h).imp_right fun h ↦ List.mem_cons_of_mem _ h
    · split at h
      · exact List.mem_cons.mp h
      · rcases List.mem_cons.mp h with rfl | h
        · exact .inr List.mem_cons_self
        · exact (ih h).imp_right fun h ↦ List.mem_cons_of_mem _ h

theorem Ordered.put (h : Ordered t) (key value : String) : Ordered (t.put key value) := by
  induction t with
  | nil => exact List.pairwise_singleton _ _
  | cons f rest ih =>
    obtain ⟨hf, hr⟩ := List.pairwise_cons.mp h
    unfold Table.put
    split
    · next he => exact List.pairwise_cons.mpr ⟨fun e hm ↦ he ▸ hf e hm, hr⟩
    · next hne =>
      split
      · next hlt =>
        refine List.pairwise_cons.mpr ⟨fun e hm ↦ ?_, h⟩
        rcases List.mem_cons.mp hm with rfl | hm
        · exact hlt
        · exact hlt.trans (hf e hm)
      · next hnlt =>
        have hlt : f.1 < key := lt_of_le_of_ne (not_lt.mp hnlt) hne
        refine List.pairwise_cons.mpr ⟨fun e hm ↦ ?_, ih hr⟩
        rcases mem_put hm with rfl | hm
        · exact hlt
        · exact hf e hm

theorem Ordered.erase (h : Ordered t) (key : String) : Ordered (t.erase key) := List.Pairwise.filter _ h

theorem put_of_mem (h : Ordered t) (hk : key ∈ t.map Prod.fst) (value : String) :
    t.put key value = t.map fun e ↦ if e.1 = key then (key, value) else e := by
  induction t with
  | nil => cases hk
  | cons e rest ih =>
    obtain ⟨he, hr⟩ := List.pairwise_cons.mp h
    rw [put, List.map_cons]
    split
    · next heq =>
      have hrest : (rest.map fun f ↦ if f.1 = key then (key, value) else f) = rest.map id :=
        List.map_congr_left fun f hf ↦ if_neg fun hfk ↦ (he f hf).ne (heq.trans hfk.symm)
      rw [hrest, List.map_id]
    · next hne =>
      have hm : key ∈ rest.map Prod.fst := (List.mem_cons.mp hk).resolve_left (Ne.symm hne)
      obtain ⟨f, hf, rfl⟩ := List.mem_map.mp hm
      rw [if_neg (he f hf).asymm, ih hr hm]

theorem put_perm_of_not_mem (hk : key ∉ t.map Prod.fst) (value : String) :
    (t.put key value).Perm ((key, value) :: t) := by
  induction t with
  | nil => exact .refl _
  | cons e rest ih =>
    obtain ⟨hne, hm⟩ := not_or.mp (mt List.mem_cons.mpr hk)
    rw [put, if_neg (Ne.symm hne)]
    split
    · exact .refl _
    · exact ((ih hm).cons e).trans (.swap _ _ _)

theorem get?_eq_find? (t : Table) (key : String) :
    t.get? key = (t.find? fun e ↦ e.1 = key).map Prod.snd := by
  induction t with
  | nil => rfl
  | cons e rest ih =>
    rw [get?_cons, List.find?_cons, ih]
    by_cases h : e.1 = key <;> simp [h]

theorem get?_ne_none_iff : t.get? key ≠ none ↔ key ∈ t.map Prod.fst := by
  simp [get?_eq_find?]

end Table

inductive StoreStep where
  | get (key : String)
  | set (key value : String)
  | remove (key : String)
  | keys (start : String)
  deriving DecidableEq, Repr

def StoreStep.call : StoreStep → StoreCall
  | get key => .get key
  | set key _ => .set key
  | remove key => .remove key
  | keys start => .keys start

inductive StoreAnswer where
  | value (v : Option String)
  | done
  | keys (ks : List String)
  deriving DecidableEq, Repr

/-- What some calls to contents of any kind are answered, some of which are refused before they get there. -/
def served {σ : Type} (exec : StoreStep → σ → StoreAnswer × σ) (refuses : Nat → StoreCall → Bool) :
    Nat → σ → List StoreStep → List (Except StorageError StoreAnswer)
  | _, _, [] => []
  | n, x, s :: rest =>
    if refuses n s.call then .error (.refused s.call) :: served exec refuses (n + 1) x rest
    else .ok (exec s x).1 :: served exec refuses (n + 1) (exec s x).2 rest

section

variable {σ τ : Type} {exec : StoreStep → σ → StoreAnswer × σ} {exec' : StoreStep → τ → StoreAnswer × τ}
  {refuses : Nat → StoreCall → Bool}

theorem length_served (n : Nat) (x : σ) (steps : List StoreStep) :
    (served exec refuses n x steps).length = steps.length := by
  induction steps generalizing n x with
  | nil => rfl
  | cons s rest ih =>
    unfold served
    split <;> simp [ih]

theorem served_eq_map {R : σ → τ → Prop} {f : StoreStep → StoreAnswer → StoreAnswer}
    (hstep : ∀ s x y, R x y → (exec' s y).1 = f s (exec s x).1 ∧ R (exec s x).2 (exec' s y).2) (n : Nat) {x : σ}
    {y : τ} (h : R x y) (steps : List StoreStep) :
    served exec' refuses n y steps =
      (steps.zip (served exec refuses n x steps)).map fun p ↦ p.2.map (f p.1) := by
  induction steps generalizing n x y with
  | nil => rfl
  | cons s rest ih =>
    obtain ⟨ha, hr⟩ := hstep s x y h
    unfold served
    split
    · rw [List.zip_cons_cons, List.map_cons, ih _ h]
      rfl
    · rw [List.zip_cons_cons, List.map_cons, ih _ hr, ha]
      rfl

/-- What answers one call just like another thing answers all calls just like it. -/
theorem served_eq {R : σ → τ → Prop}
    (hstep : ∀ s x y, R x y → (exec' s y).1 = (exec s x).1 ∧ R (exec s x).2 (exec' s y).2) (n : Nat) {x : σ} {y : τ}
    (h : R x y) (steps : List StoreStep) : served exec' refuses n y steps = served exec refuses n x steps := by
  have hid : (fun p : StoreStep × Except StorageError StoreAnswer ↦ p.2.map fun a ↦ a) = Prod.snd := by
    funext ⟨_, r⟩
    cases r <;> rfl
  rw [served_eq_map (f := fun _ a ↦ a) hstep n h, hid]
  exact List.map_snd_zip (length_served n x steps).le

end

namespace Durable

def step (d : Durable) : StoreStep → Except StorageError StoreAnswer × Durable
  | .get key => ((d.get key).1.map .value, (d.get key).2)
  | .set key value => ((d.set key value).1.map fun _ ↦ .done, (d.set key value).2)
  | .remove key => ((d.remove key).1.map fun _ ↦ .done, (d.remove key).2)
  | .keys start => ((d.keys start).1.map .keys, (d.keys start).2)

def answers (d : Durable) : List StoreStep → List (Except StorageError StoreAnswer)
  | [] => []
  | s :: rest => (d.step s).1 :: (d.step s).2.answers rest

def after (d : Durable) (steps : List StoreStep) : Durable := steps.foldl (fun d s ↦ (d.step s).2) d

end Durable

def Engine.exec (e : Engine) : StoreStep → Table → StoreAnswer × Table
  | .get key, t => (.value (t.get? key), t)
  | .set key value, t => (.done, t.put key value)
  | .remove key, t => (.done, t.erase key)
  | .keys start, t => (.keys ((t.map Prod.fst).filter (e.keyStarts start)), t)

theorem Engine.exec_ordered {e : Engine} {t : Table} (h : t.Ordered) (s : StoreStep) : (e.exec s t).2.Ordered := by
  cases s with
  | get key => exact h
  | set key value => exact h.put key value
  | remove key => exact h.erase key
  | keys start => exact h

namespace Durable

variable {d : Durable}

theorem step_of_refused (s : StoreStep) (hr : d.refuses d.calls s.call) :
    d.step s = (.error (.refused s.call), { d with calls := d.calls + 1 }) := by
  cases s <;> simp only [StoreStep.call] at hr ⊢ <;> simp only [step, get, set, remove, keys, perform, if_pos hr] <;>
    rfl

theorem step_of_not_refused (h : d.engine ≠ .missing) (s : StoreStep) (hr : ¬ d.refuses d.calls s.call) :
    d.step s = (.ok (d.engine.exec s d.entries).1,
      { d with calls := d.calls + 1, entries := (d.engine.exec s d.entries).2 }) := by
  cases s <;> simp only [StoreStep.call] at hr <;>
    simp only [step, get, set, remove, keys, perform, if_neg hr, if_neg h] <;> rfl

theorem answers_eq_served (h : d.engine ≠ .missing) (steps : List StoreStep) :
    d.answers steps = served d.engine.exec d.refuses d.calls d.entries steps := by
  induction steps generalizing d with
  | nil => rfl
  | cons s rest ih =>
    rw [answers, served]
    split
    · next hr =>
      rw [step_of_refused s hr]
      exact congrArg _ (ih h)
    · next hr =>
      rw [step_of_not_refused h s hr]
      exact congrArg _ (ih h)

theorem after_keeps (h : d.engine ≠ .missing) (ho : d.entries.Ordered) (steps : List StoreStep) :
    (d.after steps).engine = d.engine ∧ (d.after steps).entries.Ordered := by
  induction steps generalizing d with
  | nil => exact ⟨rfl, ho⟩
  | cons s rest ih =>
    rw [after, List.foldl_cons]
    by_cases hr : d.refuses d.calls s.call
    · rw [step_of_refused s hr]
      exact ih h ho
    · rw [step_of_not_refused h s hr]
      exact ih h (Engine.exec_ordered ho s)

end Durable

namespace Engine

variable {start key : String}

theorem keyStarts_memory : memory.keyStarts start key = true ↔ start.toList <+: key.toList :=
  List.isPrefixOf_iff_prefix

/-- The database takes as many characters of a key as stand before the first zero character of the text. -/
theorem keyStarts_database :
    database.keyStarts start key = true ↔ '\x00' ∉ start.toList ∧ start.toList <+: key.toList := by
  rw [keyStarts, beq_iff_eq]
  by_cases hz : '\x00' ∈ start.toList
  · have hlt : (start.toList.takeWhile (· != '\x00')).length < start.toList.length := by
      refine lt_of_le_of_ne (List.takeWhile_prefix _).length_le fun he ↦ ?_
      have hall := List.takeWhile_eq_self_iff.mp ((List.takeWhile_prefix _).eq_of_length he) _ hz
      exact absurd hall (by decide)
    refine iff_of_false (fun he ↦ ?_) fun h ↦ h.1 hz
    have hle := List.length_take_le (start.toList.takeWhile (· != '\x00')).length key.toList
    rw [he] at hle
    exact absurd hlt hle.not_gt
  · have hall : start.toList.takeWhile (· != '\x00') = start.toList :=
      List.takeWhile_eq_self_iff.mpr fun c hc ↦ bne_iff_ne.mpr fun h ↦ hz (h ▸ hc)
    rw [hall, and_iff_right hz, List.prefix_iff_eq_take, eq_comm]

end Engine

/-- What the database makes of an answer of memory: it lists nothing under a text with a zero character. -/
def StoreStep.overlook : StoreStep → StoreAnswer → StoreAnswer
  | .keys start, .keys ks => .keys (if '\x00' ∈ start.toList then [] else ks)
  | _, a => a

theorem Engine.exec_database (s : StoreStep) (t : Table) :
    (database.exec s t).1 = s.overlook (memory.exec s t).1 ∧ (memory.exec s t).2 = (database.exec s t).2 := by
  cases s with
  | get key => exact ⟨rfl, rfl⟩
  | set key value => exact ⟨rfl, rfl⟩
  | remove key => exact ⟨rfl, rfl⟩
  | keys start =>
    refine ⟨congrArg StoreAnswer.keys ?_, rfl⟩
    split
    · next hz => exact List.filter_eq_nil_iff.mpr fun key _ h ↦ (keyStarts_database.mp h).1 hz
    · next hz =>
      refine List.filter_congr fun key _ ↦ Bool.eq_iff_iff.mpr ?_
      rw [keyStarts_database, keyStarts_memory, and_iff_right hz]

abbrev Rows := List (String × String)

namespace Rows

/-- The length that the database gives a text: its characters before the first zero character. -/
def length (s : String) : Nat := (s.toList.takeWhile (· != '\x00')).length

def upsert (key value : String) (rows : Rows) : Rows :=
  if key ∈ rows.map Prod.fst then rows.map fun r ↦ if r.1 = key then (key, value) else r
  else rows ++ [(key, value)]

def bytewise (s t : String) : Bool := !decide (Text.bytes t < Text.bytes s)

theorem bytewise_iff {s t : String} : bytewise s t = true ↔ s ≤ t := by
  rw [bytewise, Bool.not_eq_true', decide_eq_false_iff_not, ← Text.lt_iff_bytes_lt, not_lt]

theorem pairwise_mergeSort (keys : List String) : (keys.mergeSort bytewise).Pairwise (· ≤ ·) := by
  have htrans (a b c : String) (hab : bytewise a b = true) (hbc : bytewise b c = true) : bytewise a c = true :=
    bytewise_iff.mpr ((bytewise_iff.mp hab).trans (bytewise_iff.mp hbc))
  have htotal (a b : String) : (bytewise a b || bytewise b a) = true := by
    rw [Bool.or_eq_true, bytewise_iff, bytewise_iff]
    exact le_total a b
  exact (List.pairwise_mergeSort htrans htotal keys).imp bytewise_iff.mp

def keysUnder (start : String) (rows : Rows) : List String :=
  ((rows.map Prod.fst).filter fun key ↦ key.toList.take (length start) == start.toList).mergeSort
    bytewise

def exec : StoreStep → Rows → StoreAnswer × Rows
  | .get key, rows => (.value ((rows.find? fun r ↦ r.1 = key).map Prod.snd), rows)
  | .set key value, rows => (.done, rows.upsert key value)
  | .remove key, rows => (.done, rows.filter fun r ↦ r.1 ≠ key)
  | .keys start, rows => (.keys (rows.keysUnder start), rows)

structure Hold (t : Table) (rows : Rows) : Prop where
  ordered : t.Ordered
  perm : rows.Perm t

namespace Hold

variable {t : Table} {rows : Rows}

theorem find? (h : Hold t rows) (key : String) :
    (rows.find? fun r ↦ r.1 = key) = t.find? fun r ↦ r.1 = key := by
  rw [← List.head?_filter, ← List.head?_filter]
  -- at most one row has the key
  have hn {l : Rows} (hl : (l.map Prod.fst).Nodup) (p : String × String → Bool) :
      (l.filter p).Pairwise fun e f ↦ e.1 ≠ f.1 := (List.pairwise_map.mp hl).filter p
  have hrows : (rows.map Prod.fst).Nodup := (h.perm.map _).nodup_iff.mpr h.ordered.nodup
  refine congrArg _ ((h.perm.filter _).eq_of_pairwise (fun e f he hf hne _ ↦ ?_) (hn hrows _) (hn h.ordered.nodup _))
  have hek : e.1 = key := of_decide_eq_true (List.mem_filter.mp he).2
  have hfk : f.1 = key := of_decide_eq_true (List.mem_filter.mp hf).2
  exact absurd (hek.trans hfk.symm) hne

theorem upsert (h : Hold t rows) (key value : String) : Hold (t.put key value) (rows.upsert key value) := by
  refine ⟨h.ordered.put key value, ?_⟩
  have hm : key ∈ rows.map Prod.fst ↔ key ∈ t.map Prod.fst := (h.perm.map Prod.fst).mem_iff
  unfold Rows.upsert
  split
  · next hk =>
    rw [Table.put_of_mem h.ordered (hm.mp hk)]
    exact h.perm.map _
  · next hk =>
    refine (List.perm_append_comm.trans (h.perm.cons (key, value))).trans ?_
    exact (Table.put_perm_of_not_mem (mt hm.mpr hk) value).symm

theorem keysUnder (h : Hold t rows) (start : String) :
    rows.keysUnder start = (t.map Prod.fst).filter (Engine.database.keyStarts start) := by
  have hsorted : ((t.map Prod.fst).filter (Engine.database.keyStarts start)).Pairwise (· ≤ ·) :=
    ((List.pairwise_map.mpr h.ordered).imp le_of_lt).filter _
  exact ((List.mergeSort_perm _ _).trans ((h.perm.map _).filter _)).eq_of_pairwise (fun _ _ _ _ ↦ le_antisymm)
    (pairwise_mergeSort _) hsorted

theorem exec (h : Hold t rows) (s : StoreStep) :
    (Rows.exec s rows).1 = (Engine.database.exec s t).1 ∧ Hold (Engine.database.exec s t).2 (Rows.exec s rows).2 := by
  cases s with
  | get key => exact ⟨congrArg StoreAnswer.value (by rw [h.find?, Table.get?_eq_find?]), h⟩
  | set key value => exact ⟨rfl, h.upsert key value⟩
  | remove key => exact ⟨rfl, h.ordered.erase key, h.perm.filter _⟩
  | keys start => exact ⟨congrArg StoreAnswer.keys (h.keysUnder start), h⟩

end Hold

end Rows

theorem StoreStep.map_overlook {s : StoreStep} {r : Except StorageError StoreAnswer} :
    r.map s.overlook = r ↔
      ∀ start ks, s = .keys start → r = .ok (.keys ks) → '\x00' ∈ start.toList → ks = [] := by
  cases r with
  | error e => exact iff_of_true rfl nofun
  | ok a =>
    cases s with
    | get key => exact iff_of_true rfl nofun
    | set key value => exact iff_of_true rfl nofun
    | remove key => exact iff_of_true rfl nofun
    | keys start =>
      cases a with
      | value v => exact iff_of_true rfl nofun
      | done => exact iff_of_true rfl nofun
      | keys ks => simp [Except.map, overlook, eq_comm]

namespace Durable

/-- Under a text memory lists the keys whose bytes begin with those of the text, in the order of their bytes. -/
theorem keys_eq_ok {d : Durable} {start : String} {ks : List String} (he : d.engine = .memory)
    (ho : d.entries.Ordered) (h : (d.keys start).1 = .ok ks) :
    (ks.Pairwise fun s t ↦ Text.bytes s < Text.bytes t) ∧
    ∀ key, key ∈ ks ↔ d.entries.get? key ≠ none ∧ Text.bytes start <+: Text.bytes key := by
  have hks : ks = (d.entries.map Prod.fst).filter (Engine.memory.keyStarts start) := by
    rw [keys, perform, he, if_neg (show ¬ Engine.memory = .missing by decide)] at h
    split at h
    · cases h
    · exact (Except.ok.inj h).symm
  subst hks
  refine ⟨((List.pairwise_map.mpr ho).imp Text.lt_iff_bytes_lt.mp).filter _, fun key ↦ ?_⟩
  rw [List.mem_filter, Engine.keyStarts_memory, Text.bytes_isPrefix, Table.get?_ne_none_iff]

/-- Memory and the database, empty at first, answer the same calls, some of which are refused. The database answers
what the statements over its rows do. It answers like memory but for the keys under a text with a zero character, of
which it finds none; so they answer alike just if memory finds none there either. -/
theorem engines_agree (refuses : Nat → StoreCall → Bool) (steps : List StoreStep) :
    let memory : Durable := ⟨.memory, [], 0, refuses⟩
    let database : Durable := ⟨.database, [], 0, refuses⟩
    let inMemory := memory.answers steps
    let inDatabase := database.answers steps
    inDatabase = served Rows.exec refuses 0 [] steps ∧
    inDatabase = (steps.zip inMemory).map (fun p ↦ p.2.map p.1.overlook) ∧
    (inDatabase = inMemory ↔ ∀ start ks, (.keys start, .ok (.keys ks)) ∈ steps.zip inMemory →
      '\x00' ∈ start.toList → ks = []) ∧
    ∀ start ks, ((memory.after steps).keys start).1 = .ok ks →
      (ks.Pairwise fun s t ↦ Text.bytes s < Text.bytes t) ∧
      ∀ key, key ∈ ks ↔ (memory.after steps).entries.get? key ≠ none ∧ Text.bytes start <+: Text.bytes key := by
  intro memory database inMemory inDatabase
  have hmemory : memory.engine ≠ .missing := nofun
  have hdatabase : database.engine ≠ .missing := nofun
  have hm : inMemory = served Engine.memory.exec refuses 0 [] steps := answers_eq_served hmemory steps
  have hd : inDatabase = served Engine.database.exec refuses 0 [] steps := answers_eq_served hdatabase steps
  have hover : inDatabase = (steps.zip inMemory).map fun p ↦ p.2.map p.1.overlook := by
    rw [hd, hm]
    refine served_eq_map (R := Eq) (fun s t t' ht ↦ ?_) 0 rfl steps
    exact ht ▸ Engine.exec_database s t
  refine ⟨?_, hover, ?_, fun start ks h ↦ ?_⟩
  · rw [hd]
    exact (served_eq (R := Rows.Hold) (fun s t rows h ↦ h.exec s) 0 ⟨.nil, .nil⟩ steps).symm
  · have hsame : inMemory = (steps.zip inMemory).map Prod.snd :=
      (List.map_snd_zip (hm ▸ length_served 0 [] steps).le).symm
    rw [hover]
    conv_lhs => rhs; rw [hsame]
    rw [List.map_inj_left]
    simp only [StoreStep.map_overlook, Prod.forall]
    exact ⟨fun h start ks hp ↦ h _ _ hp start ks rfl rfl, fun h s r hp start ks hs hr ↦ h start ks (hs ▸ hr ▸ hp)⟩
  · obtain ⟨he, ho⟩ := after_keeps hmemory List.Pairwise.nil steps
    exact keys_eq_ok he ho h

/-- Of a key that starts with a letter and a zero character, memory knows that it starts with both, the database that
it starts with the letter. -/
theorem engines_agree_but_zero_character :
    let steps : List StoreStep := [.set "a\x00b" "1", .keys "a", .keys "a\x00"]
    let inMemory := (Durable.empty .memory).answers steps
    let inDatabase := (Durable.empty .database).answers steps
    inMemory = [.ok .done, .ok (.keys ["a\x00b"]), .ok (.keys ["a\x00b"])] ∧
      inDatabase = [.ok .done, .ok (.keys ["a\x00b"]), .ok (.keys [])] ∧ inDatabase ≠ inMemory := by
  intro steps inMemory inDatabase
  have hm : inMemory = [.ok .done, .ok (.keys ["a\x00b"]), .ok (.keys ["a\x00b"])] := rfl
  obtain ⟨-, hover, hagree, -⟩ := engines_agree (fun _ _ ↦ false) steps
  have hd : inDatabase = [.ok .done, .ok (.keys ["a\x00b"]), .ok (.keys [])] := hover.trans rfl
  refine ⟨hm, hd, fun he ↦ ?_⟩
  have hempty := hagree.mp he "a\x00" ["a\x00b"] (List.mem_cons_of_mem _ (List.mem_cons_of_mem _ List.mem_cons_self))
    (by decide)
  cases hempty

end Durable

end Backoffice
