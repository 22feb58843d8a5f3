import Mathlib.Data.List.Nodup
import Backoffice.Client.Cascade
import Backoffice.Client.Context
import Backoffice.Proofs.Text.ByteOrder

namespace Backoffice

open Text

/-- Where a name of a business unit may stand: with the selected user, with the user at an index of the page, or at an
index of the list of a client. -/
inductive NamePlace where
  | selected
  | listed (n : Nat)
  | cached (client : Id .client) (n : Nat)
  deriving DecidableEq

namespace NamePlace

inductive Before : NamePlace → NamePlace → Prop
  | selected_listed (n : Nat) : Before .selected (.listed n)
  | selected_cached (c : Id .client) (n : Nat) : Before .selected (.cached c n)
  | listed {m n : Nat} (h : m < n) : Before (.listed m) (.listed n)
  | listed_cached (m : Nat) (c : Id .client) (n : Nat) : Before (.listed m) (.cached c n)
  | clients {c d : Id .client} (h : bytes c.text < bytes d.text) (m n : Nat) : Before (.cached c m) (.cached d n)
  | cached (c : Id .client) {m n : Nat} (h : m < n) : Before (.cached c m) (.cached c n)

theorem before_trichotomy (p q : NamePlace) : p.Before q ∨ p = q ∨ q.Before p := by
  cases p with
  | selected =>
    cases q with
    | selected => exact .inr (.inl rfl)
    | listed n => exact .inl (.selected_listed n)
    | cached d n => exact .inl (.selected_cached d n)
  | listed m =>
    cases q with
    | selected => exact .inr (.inr (.selected_listed m))
    | listed n =>
      rcases Nat.lt_trichotomy m n with h | rfl | h
      · exact .inl (.listed h)
      · exact .inr (.inl rfl)
      · exact .inr (.inr (.listed h))
    | cached d n => exact .inl (.listed_cached m d n)
  | cached c m =>
    cases q with
    | selected => exact .inr (.inr (.selected_cached c m))
    | listed n => exact .inr (.inr (.listed_cached n c m))
    | cached d n =>
      rcases lt_trichotomy c.text d.text with h | h | h
      · exact .inl (.clients (lt_iff_bytes_lt.mp h) m n)
      · obtain rfl : c = d := congrArg Id.mk h
        rcases Nat.lt_trichotomy m n with h | rfl | h
        · exact .inl (.cached c h)
        · exact .inr (.inl rfl)
        · exact .inr (.inr (.cached c h))
      · exact .inr (.inr (.clients (lt_iff_bytes_lt.mp h) n m))

end NamePlace

/-- The clients of some lists are in the order of the bytes of their identifiers. -/
def ClientsInOrder {α : Type} (lists : List (Id .client × α)) : Prop :=
  lists.Pairwise fun a b ↦ bytes a.1.text < bytes b.1.text

namespace ClientsInOrder

variable {α : Type} {lists before after : List (Id .client × α)} {e e' : Id .client × α}

theorem mem_of_lt (h : ClientsInOrder (before ++ e :: after)) (hm : e' ∈ before ++ e :: after)
    (hlt : bytes e'.1.text < bytes e.1.text) : e' ∈ before := by
  obtain ⟨-, hafter, -⟩ := List.pairwise_append.mp h
  rcases List.mem_append.mp hm with hm | hm
  · exact hm
  · rcases List.mem_cons.mp hm with rfl | hm
    · exact absurd hlt (List.lt_irrefl _)
    · exact absurd hlt (List.lt_asymm (List.rel_of_pairwise_cons hafter hm))

theorem eq_of_mem (h : ClientsInOrder lists) {c : Id .client} {a b : α} (ha : (c, a) ∈ lists) (hb : (c, b) ∈ lists) :
    a = b := by
  have hn : (lists.map Prod.fst).Nodup := by
    refine List.pairwise_map.mpr (h.imp fun hlt he ↦ ?_)
    rw [he] at hlt
    exact List.lt_irrefl _ hlt
  exact congrArg Prod.snd (List.inj_on_of_nodup_map hn ha hb rfl)

end ClientsInOrder

namespace UnitCache

variable {cache : UnitCache} {id : Id .client} {f : ListState UnitOption → ListState UnitOption}

theorem mem_update {e : Id .client × ListState UnitOption} (h : e ∈ update id f cache) :
    e.1 = id ∨ e ∈ cache := by
  induction cache with
  | nil => exact .inl (List.mem_singleton.mp h ▸ rfl)
  | cons e' rest ih =>
    obtain ⟨k, l⟩ := e'
    simp only [update] at h
    split at h
    · next hk =>
      rcases List.mem_cons.mp h with rfl | h
      · exact .inl hk
      · exact .inr (List.mem_cons_of_mem _ h)
    · split at h
      · rcases List.mem_cons.mp h with rfl | h
        · exact .inl rfl
        · exact .inr h
      · rcases List.mem_cons.mp h with rfl | h
        · exact .inr List.mem_cons_self
        · exact (ih h).imp_right (List.mem_cons_of_mem _)

theorem inOrder_update (h : ClientsInOrder cache) : ClientsInOrder (update id f cache) := by
  induction cache with
  | nil => exact List.pairwise_singleton _ _
  | cons e rest ih =>
    obtain ⟨k, l⟩ := e
    obtain ⟨hk, hrest⟩ := List.pairwise_cons.mp h
    simp only [update]
    split
    · exact List.pairwise_cons.mpr ⟨hk, hrest⟩
    · next hne =>
      split
      · next hlt =>
        have hid : bytes id.text < bytes k.text := lt_iff_bytes_lt.mp hlt
        refine List.pairwise_cons.mpr ⟨fun e he ↦ ?_, h⟩
        rcases List.mem_cons.mp he with rfl | he
        · exact hid
        · exact List.lt_trans hid (hk e he)
      · next hnlt =>
        refine List.pairwise_cons.mpr ⟨fun e he ↦ ?_, ih hrest⟩
        rcases mem_update he with hid | he
        · have hkid : k.text < id.text :=
            lt_of_le_of_ne (not_lt.mp hnlt) fun ht ↦ hne (congrArg Id.mk ht)
          rw [hid]
          exact lt_iff_bytes_lt.mp hkid
        · exact hk e he

theorem inOrder_erase (h : ClientsInOrder cache) : ClientsInOrder (cache.erase id) := h.filter _

theorem inOrder_items (h : ClientsInOrder cache) : ClientsInOrder cache.items := List.pairwise_map.mpr h

end UnitCache

theorem Id.filled?_eq_some_iff {e : Entity} {picked : Option (Id e)} {id : Id e} :
    Id.filled? picked = some id ↔ picked = some id ∧ id.isBlank = false := by
  cases picked with
  | none => simp [Id.filled?]
  | some i => cases hi : i.isBlank <;> simp only [Id.filled?, hi] <;> grind

namespace UnitSources

variable {s : UnitSources} {id : Id .businessUnit} {name other : String} {p q : NamePlace}

/-- A name of a unit stands at a place, and it is not blank. -/
inductive Names (s : UnitSources) (id : Id .businessUnit) (name : String) : NamePlace → Prop
  | selected {u : AdminUser} (hu : s.selectedUser = some u) (hr : u.businessUnit = some ⟨id, some name⟩)
      (hn : isBlankText name = false) : Names s id name .selected
  | listed {n : Nat} {u : AdminUser} (hu : s.bulkUsers[n]? = some u) (hr : u.businessUnit = some ⟨id, some name⟩)
      (hn : isBlankText name = false) : Names s id name (.listed n)
  | cached {c : Id .client} {units : List UnitOption} {n : Nat} (hc : (c, units) ∈ s.byClient)
      (hu : units[n]? = some ⟨id, name⟩) (hn : isBlankText name = false) : Names s id name (.cached c n)

/-- A name that stands at a place before which none stands. -/
structure First (s : UnitSources) (id : Id .businessUnit) (name : String) (p : NamePlace) : Prop where
  names : s.Names id name p
  least : ∀ other q, s.Names id other q → ¬ q.Before p

theorem nameIn_eq_some_iff {u : AdminUser} :
    nameIn id u = some name ↔ u.businessUnit = some ⟨id, some name⟩ ∧ isBlankText name = false := by
  rw [nameIn, AdminUser.businessUnitName]
  cases u.businessUnit with
  | none => simp [filledName?]
  | some r =>
    obtain ⟨i, n⟩ := r
    by_cases hi : i = id
    · cases n with
      | none => simp [filledName?]
      | some n =>
        by_cases hn : isBlankText n
        · simp only [hi, if_true, filledName?, hn]
          grind
        · simp only [hi, if_true, filledName?, hn]
          grind
    · simp [filledName?, hi]

def optionName (id : Id .businessUnit) (u : UnitOption) : Option String :=
  if u.id = id ∧ ¬ isBlankText u.name then some u.name else none

theorem optionName_eq_some_iff {u : UnitOption} :
    optionName id u = some name ↔ u = ⟨id, name⟩ ∧ isBlankText name = false := by
  obtain ⟨i, n⟩ := u
  simp only [optionName, Option.ite_none_right_eq_some, Option.some.injEq, UnitOption.mk.injEq]
  grind

theorem nameAmong_eq (units : List UnitOption) : nameAmong id units = units.findSome? (optionName id) := by
  induction units with
  | nil => rfl
  | cons u rest ih =>
    rw [List.findSome?_cons, ← ih]
    by_cases hu : u.id = id ∧ ¬ isBlankText u.name
    · simp [nameAmong, optionName, hu]
    · rw [optionName, if_neg hu, nameAmong, List.find?_cons_of_neg (by simpa using hu)]
      rfl

theorem nameAmong_flatMap (lists : List (Id .client × List UnitOption)) :
    nameAmong id (lists.flatMap Prod.snd) = lists.findSome? fun e ↦ e.2.findSome? (optionName id) := by
  simp only [← nameAmong_eq, nameAmong, List.find?_flatMap, List.map_findSome?]
  rfl

theorem exists_index_of_findSome? {α β : Type} {f : α → Option β} {l : List α} {b : β}
    (h : l.findSome? f = some b) :
    ∃ (n : Nat) (a : α), l[n]? = some a ∧ f a = some b ∧ ∀ m < n, ∀ x : α, l[m]? = some x → f x = none := by
  obtain ⟨before, a, after, rfl, ha, hn⟩ := List.findSome?_eq_some_iff.mp h
  refine ⟨before.length, a, by simp, ha, fun m hm x hx ↦ hn x ?_⟩
  rw [List.getElem?_append_left hm] at hx
  exact List.mem_of_getElem? hx

theorem names_selected_iff : s.Names id name .selected ↔ s.selectedUser.bind (nameIn id) = some name := by
  rw [Option.bind_eq_some_iff]
  constructor
  · rintro ⟨hu, hr, hn⟩
    exact ⟨_, hu, nameIn_eq_some_iff.mpr ⟨hr, hn⟩⟩
  · rintro ⟨u, hu, h⟩
    obtain ⟨hr, hn⟩ := nameIn_eq_some_iff.mp h
    exact .selected hu hr hn

theorem names_listed_iff {n : Nat} :
    s.Names id name (.listed n) ↔ ∃ u, s.bulkUsers[n]? = some u ∧ nameIn id u = some name := by
  constructor
  · rintro (_ | ⟨hu, hr, hn⟩)
    exact ⟨_, hu, nameIn_eq_some_iff.mpr ⟨hr, hn⟩⟩
  · rintro ⟨u, hu, h⟩
    obtain ⟨hr, hn⟩ := nameIn_eq_some_iff.mp h
    exact .listed hu hr hn

theorem names_cached_iff {c : Id .client} {n : Nat} : s.Names id name (.cached c n) ↔
    ∃ units u, (c, units) ∈ s.byClient ∧ units[n]? = some u ∧ optionName id u = some name := by
  constructor
  · rintro (_ | _ | ⟨hc, hu, hn⟩)
    exact ⟨_, _, hc, hu, optionName_eq_some_iff.mpr ⟨rfl, hn⟩⟩
  · rintro ⟨units, u, hc, hu, h⟩
    obtain ⟨rfl, hn⟩ := optionName_eq_some_iff.mp h
    exact .cached hc hu hn

theorem nameOf_eq : s.nameOf id = ((s.selectedUser.bind (nameIn id)).or (s.bulkUsers.findSome? (nameIn id))).or
    (s.byClient.findSome? fun e ↦ e.2.findSome? (optionName id)) := by
  simp only [nameOf, Option.orElse_eq_or, nameAmong_flatMap, Option.or_assoc]

theorem exists_nameOf (h : s.Names id name p) : ∃ found, s.nameOf id = some found := by
  rw [← Option.isSome_iff_exists, nameOf_eq, Option.isSome_or, Option.isSome_or, Bool.or_eq_true, Bool.or_eq_true,
    List.findSome?_isSome_iff, List.findSome?_isSome_iff]
  cases p with
  | selected =>
    rw [names_selected_iff] at h
    simp [h]
  | listed n =>
    obtain ⟨u, hu, hr⟩ := names_listed_iff.mp h
    exact .inl (.inr ⟨u, List.mem_of_getElem? hu, by simp [hr]⟩)
  | cached c n =>
    obtain ⟨units, u, hc, hu, hr⟩ := names_cached_iff.mp h
    refine .inr ⟨(c, units), hc, List.findSome?_isSome_iff.mpr ⟨u, List.mem_of_getElem? hu, ?_⟩⟩
    simp [hr]

theorem first_of_nameOf (ho : ClientsInOrder s.byClient) (h : s.nameOf id = some name) :
    ∃ p, s.First id name p := by
  rw [nameOf_eq, Option.or_eq_some_iff, Option.or_eq_some_iff, Option.or_eq_none_iff] at h
  rcases h with (h | ⟨hs, h⟩) | ⟨⟨hs, hl⟩, h⟩
  · exact ⟨.selected, names_selected_iff.mpr h, fun _ _ _ hb ↦ nomatch hb⟩
  · obtain ⟨n, u, hu, hr, hleast⟩ := exists_index_of_findSome? h
    refine ⟨.listed n, names_listed_iff.mpr ⟨u, hu, hr⟩, fun other q hq hb ↦ ?_⟩
    cases hb with
    | selected_listed =>
      rw [names_selected_iff, hs] at hq
      cases hq
    | listed hm =>
      obtain ⟨x, hx, hxr⟩ := names_listed_iff.mp hq
      rw [hleast _ hm x hx] at hxr
      cases hxr
  · obtain ⟨before, ⟨c, units⟩, after, hsplit, hf, hnone⟩ := List.findSome?_eq_some_iff.mp h
    obtain ⟨n, u, hu, hr, hleast⟩ := exists_index_of_findSome? hf
    have hc : (c, units) ∈ s.byClient := by simp [hsplit]
    refine ⟨.cached c n, names_cached_iff.mpr ⟨units, u, hc, hu, hr⟩, fun other q hq hb ↦ ?_⟩
    cases hb with
    | selected_cached =>
      rw [names_selected_iff, hs] at hq
      cases hq
    | listed_cached m =>
      obtain ⟨x, hx, hxr⟩ := names_listed_iff.mp hq
      rw [List.findSome?_eq_none_iff.mp hl x (List.mem_of_getElem? hx)] at hxr
      cases hxr
    | @clients d _ hd m =>
      obtain ⟨earlier, x, hmem, hx, hxr⟩ := names_cached_iff.mp hq
      rw [hsplit] at ho hmem
      have hn := List.findSome?_eq_none_iff.mp (hnone _ (ho.mem_of_lt hmem hd)) x (List.mem_of_getElem? hx)
      rw [hn] at hxr
      cases hxr
    | @cached _ m _ hm =>
      obtain ⟨same, x, hmem, hx, hxr⟩ := names_cached_iff.mp hq
      obtain rfl : same = units := ho.eq_of_mem hmem hc
      rw [hleast m hm x hx] at hxr
      cases hxr

theorem Names.eq (ho : ClientsInOrder s.byClient) (h : s.Names id name p) (h' : s.Names id other p) :
    name = other := by
  cases p with
  | selected =>
    rw [names_selected_iff] at h h'
    exact Option.some.inj (h.symm.trans h')
  | listed n =>
    obtain ⟨u, hu, hr⟩ := names_listed_iff.mp h
    obtain ⟨v, hv, hr'⟩ := names_listed_iff.mp h'
    obtain rfl : u = v := Option.some.inj (hu.symm.trans hv)
    exact Option.some.inj (hr.symm.trans hr')
  | cached c n =>
    obtain ⟨units, u, hc, hu, hr⟩ := names_cached_iff.mp h
    obtain ⟨same, v, hc', hv, hr'⟩ := names_cached_iff.mp h'
    obtain rfl : units = same := ho.eq_of_mem hc hc'
    obtain rfl : u = v := Option.some.inj (hu.symm.trans hv)
    exact Option.some.inj (hr.symm.trans hr')

theorem First.eq (ho : ClientsInOrder s.byClient) (h : s.First id name p) (h' : s.First id other q) :
    name = other := by
  rcases NamePlace.before_trichotomy p q with hb | rfl | hb
  · exact absurd hb (h'.least _ _ h.names)
  · exact h.names.eq ho h'.names
  · exact absurd hb (h.least _ _ h'.names)

theorem nameOf_eq_some_iff (ho : ClientsInOrder s.byClient) :
    s.nameOf id = some name ↔ ∃ p, s.First id name p := by
  refine ⟨first_of_nameOf ho, fun ⟨p, hp⟩ ↦ ?_⟩
  obtain ⟨found, hf⟩ := exists_nameOf hp.names
  obtain ⟨q, hq⟩ := first_of_nameOf ho hf
  rw [hf, hp.eq ho hq]

theorem exists_first_iff (ho : ClientsInOrder s.byClient) :
    (∃ name p, s.First id name p) ↔ ∃ name p, s.Names id name p := by
  constructor
  · rintro ⟨name, p, h⟩
    exact ⟨name, p, h.names⟩
  · rintro ⟨name, p, h⟩
    obtain ⟨found, hf⟩ := exists_nameOf h
    exact ⟨found, first_of_nameOf ho hf⟩

variable {selected : Option (Id .businessUnit)} {cached : List UnitOption} {unit : UnitOption}

/-- A unit belongs in front of a list: it is the selected one, its identifier is not blank and not in the list, and it
goes by the name that stands first. -/
structure Missing (s : UnitSources) (selected : Option (Id .businessUnit)) (cached : List UnitOption)
    (unit : UnitOption) : Prop where
  selected : selected = some unit.id
  filled : unit.id.isBlank = false
  absent : ∀ u ∈ cached, u.id ≠ unit.id
  named : ∃ p, s.First unit.id unit.name p

theorem options_eq_cons (ho : ClientsInOrder s.byClient) (h : s.Missing selected cached unit) :
    s.options selected cached = unit :: cached := by
  have hf : Id.filled? selected = some unit.id := Id.filled?_eq_some_iff.mpr ⟨h.selected, h.filled⟩
  have hany : (cached.any fun u ↦ u.id = unit.id) = false := by simpa using h.absent
  have hname : s.nameOf unit.id = some unit.name := (nameOf_eq_some_iff ho).mpr h.named
  simp only [options, hf, hany, hname, Bool.false_eq_true, if_false]

theorem options_eq_cached (ho : ClientsInOrder s.byClient) (h : ∀ unit, ¬ s.Missing selected cached unit) :
    s.options selected cached = cached := by
  rw [options]
  split
  · rfl
  · next id hf =>
    split
    · rfl
    · next hany =>
      split
      · next name hname =>
        obtain ⟨hs, hb⟩ := Id.filled?_eq_some_iff.mp hf
        have habsent : ∀ u ∈ cached, u.id ≠ id := by simpa using hany
        exact (h ⟨id, name⟩ ⟨hs, hb, habsent, (nameOf_eq_some_iff ho).mp hname⟩).elim
      · rfl

theorem options_eq_cons_iff (ho : ClientsInOrder s.byClient) :
    s.options selected cached = unit :: cached ↔ s.Missing selected cached unit := by
  refine ⟨fun h ↦ ?_, options_eq_cons ho⟩
  by_cases hm : ∃ unit, s.Missing selected cached unit
  · obtain ⟨other, hm⟩ := hm
    rw [options_eq_cons ho hm] at h
    exact (List.cons.inj h).1 ▸ hm
  · rw [options_eq_cached ho (not_exists.mp hm)] at h
    exact absurd h (List.cons_ne_self _ _).symm

/-- The options are the cached list, or one unit and then the cached list. It is the selected unit, under the first
name for it that is not blank, and it is there just if the list lacks the unit and any source names it. So the
selected unit is among the options whenever some source names it, and no unit more often than in the list but once. -/
theorem options_offer (ho : ClientsInOrder s.byClient) (selected : Option (Id .businessUnit))
    (cached : List UnitOption) :
    let options := s.options selected cached
    (options = cached ∨ ∃ unit, options = unit :: cached) ∧
    (∀ unit, options = unit :: cached ↔ s.Missing selected cached unit) ∧
    ((∃ unit, options = unit :: cached) ↔ ∃ id, selected = some id ∧ id.isBlank = false ∧
      (∀ u ∈ cached, u.id ≠ id) ∧ ∃ name p, s.Names id name p) ∧
    (∀ id name p, selected = some id → id.isBlank = false → s.Names id name p → ∃ u ∈ options, u.id = id) ∧
    ∀ id, options.countP (·.id = id) ≤ cached.countP (·.id = id) + 1 := by
  intro options
  have hcases : options = cached ∨ ∃ unit, options = unit :: cached := by
    by_cases hm : ∃ unit, s.Missing selected cached unit
    · obtain ⟨unit, hm⟩ := hm
      exact .inr ⟨unit, options_eq_cons ho hm⟩
    · exact .inl (options_eq_cached ho (not_exists.mp hm))
  have hprepends : (∃ unit, options = unit :: cached) ↔ ∃ id, selected = some id ∧ id.isBlank = false ∧
      (∀ u ∈ cached, u.id ≠ id) ∧ ∃ name p, s.Names id name p := by
    constructor
    · rintro ⟨unit, h⟩
      obtain ⟨hs, hb, ha, p, hp⟩ := (options_eq_cons_iff ho).mp h
      exact ⟨unit.id, hs, hb, ha, unit.name, p, hp.names⟩
    · rintro ⟨id, hs, hb, ha, hn⟩
      obtain ⟨name, hp⟩ := (exists_first_iff ho).mpr hn
      exact ⟨⟨id, name⟩, options_eq_cons ho ⟨hs, hb, ha, hp⟩⟩
  refine ⟨hcases, fun unit ↦ options_eq_cons_iff ho, hprepends, fun id name p hs hb hn ↦ ?_, fun id ↦ ?_⟩
  · by_cases ha : ∀ u ∈ cached, u.id ≠ id
    · obtain ⟨unit, h⟩ := hprepends.mpr ⟨id, hs, hb, ha, name, p, hn⟩
      have hid : unit.id = id := Option.some.inj (((options_eq_cons_iff ho).mp h).selected.symm.trans hs)
      exact ⟨unit, h ▸ List.mem_cons_self, hid⟩
    · simp only [not_forall, not_not] at ha
      obtain ⟨u, hu, hid⟩ := ha
      refine ⟨u, ?_, hid⟩
      rcases hcases with h | ⟨unit, h⟩
      · exact h ▸ hu
      · exact h ▸ List.mem_cons_of_mem _ hu
  · rcases hcases with h | ⟨unit, h⟩
    · rw [h]
      exact Nat.le_add_right _ _
    · rw [h, List.countP_cons]
      split <;> omega

/-- Blank names with the selected user and in the first list do not hide the name in the second one, in whatever order
the lists came in. -/
theorem options_offer_behind_blank_names :
    let unit : Id .businessUnit := ⟨"b"⟩
    let blank : AdminUser := ⟨⟨"u1"⟩, "Ada", "", "", "", "", none, none, .active, none, some ⟨unit, some " "⟩, none⟩
    let kept (name : String) (l : ListState UnitOption) : ListState UnitOption := { l with items := [⟨unit, name⟩] }
    let cache : UnitCache := UnitCache.update ⟨"c1"⟩ (kept "") (UnitCache.update ⟨"c2"⟩ (kept "Beta") [])
    let s : UnitSources := ⟨some blank, [blank], cache.items⟩
    let cached : List UnitOption := [⟨⟨"a"⟩, "Alpha"⟩, ⟨⟨"a"⟩, "Alpha"⟩]
    ClientsInOrder s.byClient ∧ s.options (some unit) cached = ⟨unit, "Beta"⟩ :: cached ∧
      ∃ p, s.First unit "Beta" p := by
  intro unit blank kept cache s cached
  have ho : ClientsInOrder s.byClient := by
    apply UnitCache.inOrder_items
    apply UnitCache.inOrder_update
    apply UnitCache.inOrder_update
    exact List.Pairwise.nil
  have h : s.options (some unit) cached = ⟨unit, "Beta"⟩ :: cached := by decide +kernel
  obtain ⟨-, hcons, -⟩ := options_offer ho (some unit) cached
  exact ⟨ho, h, ((hcons _).mp h).named⟩

end UnitSources

end Backoffice
