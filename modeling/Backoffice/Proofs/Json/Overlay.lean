import Mathlib.Data.List.Nodup
import Backoffice.Proofs.Json.Values

namespace Backoffice

namespace Json

theorem Ordered.nodup {members : List (String × Json)} (h : Ordered members) :
    (members.map Prod.fst).Nodup :=
  List.pairwise_map.mpr <| h.imp fun hlt he ↦ by
    rw [he] at hlt
    exact String.lt_irrefl _ hlt

theorem lookup_of_mem {members : List (String × Json)} (hn : (members.map Prod.fst).Nodup)
    {m : String × Json} (hm : m ∈ members) : members.lookup m.1 = some m.2 := by
  induction members with
  | nil => cases hm
  | cons n rest ih =>
    obtain ⟨hk, hrest⟩ := List.nodup_cons.mp hn
    rcases List.mem_cons.mp hm with rfl | hm
    · exact List.lookup_cons_self
    · have hne : m.1 ≠ n.1 := fun he ↦ hk (List.mem_map.mpr ⟨m, hm, he⟩)
      rw [List.lookup_cons, beq_eq_false_iff_ne.mpr hne]
      exact ih hrest hm

theorem toMembers_eq_map (members : List (String × Json)) :
    toMembers members = members.map fun m ↦ (some m.1, m.2.toDocument) := by
  induction members with
  | nil => rfl
  | cons m rest ih => exact congrArg ((some m.1, m.2.toDocument) :: ·) ih

/-- What a patch gives a name. Of members with one name the last counts. -/
def given? (patch : Json) (name : String) : Option Json := patch.members.reverse.lookup name

theorem given?_eq_none_iff {patch : Json} {name : String} :
    patch.given? name = none ↔ patch.member? name = none := by
  have hm : patch.member? name = patch.members.lookup name := by cases patch <;> rfl
  rw [hm, given?, List.lookup_eq_none_iff, List.lookup_eq_none_iff]
  simp only [List.mem_reverse]

theorem lookup_overlay (members : List (String × Json)) (patch : Json) (name : String) :
    ((Json.obj members).overlay patch).members.lookup name =
      (patch.given? name).or (members.lookup name) :=
  lookup_foldl_put patch.members members

theorem Ordered.overlay {members : List (String × Json)} (h : Ordered members) (patch : Json) :
    Ordered ((Json.obj members).overlay patch).members :=
  ordered_foldl_put h

theorem overlay_of_not_object {v patch : Json} (h : patch.isObject = false) : v.overlay patch = v := by
  cases patch with
  | obj members => cases h
  | _ => cases v <;> rfl

end Json

namespace Document

open Json

mutual

theorem sound_toDocument (v : Json) : v.toDocument.sound := by
  cases v with
  | null | bool b | num n | str s => rfl
  | arr items => exact soundItems_toDocuments items
  | obj members => exact soundMembers_toMembers members

theorem soundItems_toDocuments (vs : List Json) : soundItems (toDocuments vs) := by
  cases vs with
  | nil => rfl
  | cons v rest =>
    rw [toDocuments, soundItems, sound_toDocument v, soundItems_toDocuments rest]
    rfl

theorem soundMembers_toMembers (ms : List (String × Json)) : soundMembers (toMembers ms) := by
  cases ms with
  | nil => rfl
  | cons m rest =>
    obtain ⟨k, v⟩ := m
    rw [toMembers, soundMembers, sound_toDocument v, soundMembers_toMembers rest]
    rfl

end

end Document

namespace Schema

variable {schema : Schema} {α : Type} {row r : Row} {members : List (String × Json)} {name : String}

def Knows (schema : Schema) (name : String) : Prop := (schema.find? (·.name == name)).isSome

/-- A schema lets a member pass: it does not know the name, or the document is what it asks for. -/
def Passes (schema : Schema) (name : String) (d : Document) : Prop :=
  ∀ f, schema.find? (·.name == name) = some f → f.check d = .ok ()

/-- An object is read if what is known passes, each of it once at most, and what is not known is sound. -/
theorem exists_readMembers_of_sound {members : List (Option String × Document)}
    (hs : ∀ m ∈ members, m.1.isSome ∧ m.2.sound)
    (hp : ∀ name d, (some name, d) ∈ members → schema.Passes name d)
    (ho : ∀ name, schema.Knows name → (members.map Prod.fst).count (some name) ≤ 1)
    (hr : ∀ name d, schema.Knows name → (some name, d) ∈ members → row.lookup name = none) :
    ∃ r, schema.readMembers row members = .ok r := by
  induction members generalizing row with
  | nil => exact ⟨row, rfl⟩
  | cons m rest ih =>
    obtain ⟨k, d⟩ := m
    obtain ⟨⟨k, rfl⟩, hd⟩ : (∃ k', k = some k') ∧ d.sound := by
      obtain ⟨hk, hd⟩ := hs _ List.mem_cons_self
      exact ⟨Option.isSome_iff_exists.mp hk, hd⟩
    have hs' : ∀ m ∈ rest, m.1.isSome ∧ m.2.sound := fun m hm ↦ hs m (List.mem_cons_of_mem _ hm)
    have hp' : ∀ name d, (some name, d) ∈ rest → schema.Passes name d :=
      fun name d hm ↦ hp name d (List.mem_cons_of_mem _ hm)
    have ho' : ∀ name, schema.Knows name → (rest.map Prod.fst).count (some name) ≤ 1 :=
      fun name hk ↦ Nat.le_trans List.count_le_count_cons (ho name hk)
    simp only [readMembers]
    cases hf : schema.find? (·.name == k) with
    | none =>
      simp only [hd, if_true]
      exact ih hs' hp' ho' fun name d hk hm ↦ hr name d hk (List.mem_cons_of_mem _ hm)
    | some f =>
      have hknown : schema.Knows k := by rw [Knows, hf]; rfl
      have hc : f.check d = .ok () := hp k d List.mem_cons_self f hf
      simp only [hr k d hknown List.mem_cons_self, hc]
      refine ih hs' hp' ho' fun name d' hk hm ↦ ?_
      -- a known name that was just read does not come again
      have hne : name ≠ k := by
        rintro rfl
        have hcount := ho name hk
        rw [List.map_cons, List.count_cons_self] at hcount
        have hpos : 0 < (rest.map Prod.fst).count (some name) :=
          List.count_pos_iff.mpr (List.mem_map_of_mem hm)
        omega
      rw [List.lookup_cons, beq_eq_false_iff_ne.mpr hne]
      exact hr name d' hk (List.mem_cons_of_mem _ hm)

theorem exists_readMembers (h : ∀ m ∈ members, schema.Passes m.1 m.2.toDocument)
    (hn : (members.map Prod.fst).Nodup) (hr : ∀ m ∈ members, row.lookup m.1 = none) :
    ∃ r, schema.readMembers row (Json.toMembers members) = .ok r := by
  rw [Json.toMembers_eq_map]
  refine exists_readMembers_of_sound (fun m hm ↦ ?_) (fun name d hd ↦ ?_) (fun name _ ↦ ?_) fun name d _ hd ↦ ?_
  · obtain ⟨n, -, rfl⟩ := List.mem_map.mp hm
    exact ⟨rfl, Document.sound_toDocument n.2⟩
  · obtain ⟨n, hm, he⟩ := List.mem_map.mp hd
    cases he
    exact h n hm
  · have hnames : (members.map fun m ↦ (some m.1, m.2.toDocument)).map Prod.fst = (members.map Prod.fst).map some := by
      simp [Function.comp_def]
    rw [hnames]
    exact List.nodup_iff_count_le_one.mp (hn.map fun _ _ he ↦ Option.some.inj he) _
  · obtain ⟨n, hm, he⟩ := List.mem_map.mp hd
    cases he
    exact hr n hm

/-- What has been read is found under its name, whether it was read before or is read now. -/
theorem lookup_of_readMembers {members : List (Option String × Document)}
    (h : schema.readMembers row members = .ok r) (hk : schema.Knows name) :
    r.lookup name = (row.lookup name).or (members.lookup (some name)) := by
  induction members generalizing row with
  | nil =>
    cases h
    exact (Option.or_none).symm
  | cons m rest ih =>
    obtain ⟨_ | k, d⟩ := m
    · cases h
    have hlookup : ((some k, d) :: rest).lookup (some name) =
        if name = k then some d else rest.lookup (some name) := by
      by_cases he : name = k
      · simp [he]
      · rw [List.lookup_cons, if_neg he, beq_eq_false_iff_ne.mpr fun hs ↦ he (Option.some.inj hs)]
    simp only [readMembers] at h
    rw [hlookup]
    cases hf : schema.find? (·.name == k) with
    -- A member that the schema does not know is passed over, so it is not the one asked for.
    | none =>
      have hne : name ≠ k := by
        rintro rfl
        rw [Knows, hf] at hk
        cases hk
      simp only [hf] at h
      split at h
      · rw [ih h, if_neg hne]
      · cases h
    | some f =>
      simp only [hf] at h
      split at h
      · cases h
      · next hnone =>
        cases hc : f.check d with
        | error e =>
          rw [hc] at h
          cases h
        | ok _ =>
          rw [hc] at h
          rw [ih h, List.lookup_cons]
          by_cases he : name = k
          · subst he
            simp [Option.not_isSome_iff_eq_none.mp hnone]
          · rw [beq_eq_false_iff_ne.mpr he, if_neg he]

theorem lookup_toMembers (members : List (String × Json)) (name : String) :
    (Json.toMembers members).lookup (some name) = (members.lookup name).map Json.toDocument := by
  induction members with
  | nil => rfl
  | cons m rest ih =>
    obtain ⟨k, v⟩ := m
    by_cases he : name = k
    · simp [Json.toMembers, he]
    · rw [Json.toMembers, List.lookup_cons, List.lookup_cons, beq_eq_false_iff_ne.mpr he,
        beq_eq_false_iff_ne.mpr fun hs ↦ he (Option.some.inj hs), ih]

theorem lookup_readMembers (h : schema.readMembers row (Json.toMembers members) = .ok r)
    (hk : schema.Knows name) :
    r.lookup name = (row.lookup name).or ((members.lookup name).map Json.toDocument) := by
  rw [lookup_of_readMembers h hk, lookup_toMembers]

end Schema

def Json.under (members : List (String × Json)) (name : String) : Option Json := members.lookup name

def readAt {α : Type} (get : String → Option Json) (name : String) (dec : Decoder α) :
    Except DecodeError (Option α) :=
  match get name with
  | some v => dec.optional v.toDocument
  | none => .ok none

section readAt

variable {α : Type} {get get' : String → Option Json} {name : String} {dec : Decoder α} {x : Option α}

theorem readAt_congr (h : get name = get' name) (hx : readAt get name dec = .ok x) :
    readAt get' name dec = .ok x := by
  rwa [readAt, ← h]

theorem readAt_of_some {v : Json} (h : get name = some v) : readAt get name dec = dec.optional v.toDocument := by
  rw [readAt, h]

theorem readAt_of_none (h : get name = none) : readAt get name dec = .ok none := by
  rw [readAt, h]

theorem Schema.optional_eq_readAt {schema : Schema} {row : Row} {members : List (String × Json)}
    (h : schema.readMembers [] (Json.toMembers members) = .ok row) (hk : schema.Knows name) :
    row.optional name dec = readAt (Json.under members) name dec := by
  have hl : row.lookup name = (Json.under members name).map Json.toDocument := lookup_readMembers h hk
  rw [Row.optional, Row.withDefault, readAt, hl]
  cases Json.under members name <;> rfl

theorem Field.check_of_readAt {v : Json} (hx : readAt get name dec = .ok x) (h : get name = some v) :
    (Field.of name dec.optional).check v.toDocument = .ok () := by
  rw [readAt_of_some h] at hx
  simp only [of, hx]
  rfl

end readAt

end Backoffice
