import Backoffice.Json.Schema

namespace Backoffice

namespace Json

def Ordered (members : List (String × Json)) : Prop := members.Pairwise fun m n ↦ m.1 < n.1

theorem mem_put {name : String} {v : Json} {members : List (String × Json)} {m : String × Json}
    (h : m ∈ put name v members) : m = (name, v) ∨ m ∈ members := by
  induction members with
  | nil => exact .inl (List.mem_singleton.mp h)
  | cons n rest ih =>
    obtain ⟨k, w⟩ := n
    simp only [put] at h
    split at h
    · next hk =>
      rw [← beq_iff_eq.mp hk] at h
      exact (List.mem_cons.mp h).imp_right (List.mem_cons_of_mem _)
    · split at h
      · exact List.mem_cons.mp h
      · rcases List.mem_cons.mp h with rfl | h
        · exact .inr List.mem_cons_self
        · exact (ih h).imp_right (List.mem_cons_of_mem _)

theorem Ordered.put {members : List (String × Json)} (h : Ordered members) (name : String) (v : Json) :
    Ordered (put name v members) := by
  induction members with
  | nil => exact List.pairwise_singleton _ _
  | cons n rest ih =>
    obtain ⟨k, w⟩ := n
    obtain ⟨hk, hrest⟩ := List.pairwise_cons.mp h
    simp only [Json.put]
    split
    · exact List.pairwise_cons.mpr ⟨hk, hrest⟩
    · next hne =>
      split
      · next hlt =>
        refine List.pairwise_cons.mpr ⟨fun m hm ↦ ?_, h⟩
        rcases List.mem_cons.mp hm with rfl | hm
        · exact hlt
        · exact String.lt_trans hlt (hk m hm)
      · next hnlt =>
        refine List.pairwise_cons.mpr ⟨fun m hm ↦ ?_, ih hrest⟩
        rcases mem_put hm with rfl | hm
        · apply String.not_le.mp
          intro hle
          exact hne (beq_iff_eq.mpr (String.le_antisymm hle (String.not_lt.mp hnlt)))
        · exact hk m hm

theorem lookup_put {name : String} {v : Json} {acc : List (String × Json)} (key : String) :
    (put key v acc).lookup name = if name = key then some v else acc.lookup name := by
  induction acc with
  | nil => by_cases h : name = key <;> simp [put, List.lookup_cons, h, beq_false_of_ne]
  | cons m rest ih =>
    obtain ⟨k, w⟩ := m
    simp only [put]
    split
    · next hk =>
      rw [← beq_iff_eq.mp hk]
      by_cases h : name = key <;> simp [List.lookup_cons, h, beq_false_of_ne]
    · next hk =>
      split
      · by_cases h : name = key <;> simp [List.lookup_cons, h, beq_false_of_ne]
      · rw [List.lookup_cons, ih, List.lookup_cons]
        by_cases h : name = key
        · subst h
          simp [hk]
        · simp [h]

/-- Of members that are put one after the other, the last with a name counts. -/
theorem lookup_foldl_put {name : String} (members acc : List (String × Json)) :
    (members.foldl (fun acc m ↦ put m.1 m.2 acc) acc).lookup name =
      (members.reverse.lookup name).or (acc.lookup name) := by
  induction members generalizing acc with
  | nil => rfl
  | cons m rest ih =>
    obtain ⟨k, v⟩ := m
    rw [List.foldl_cons, ih, lookup_put, List.reverse_cons, List.lookup_append, Option.or_assoc]
    by_cases h : name = k <;> simp [List.lookup_cons, h, beq_false_of_ne]

theorem put_of_forall_lt {name : String} {v : Json} {members : List (String × Json)}
    (h : ∀ m ∈ members, m.1 < name) : put name v members = members ++ [(name, v)] := by
  induction members with
  | nil => rfl
  | cons n rest ih =>
    obtain ⟨k, w⟩ := n
    have hk : k < name := h _ List.mem_cons_self
    have hne : ¬ (name == k) = true := by
      intro he
      rw [beq_iff_eq.mp he] at hk
      exact String.lt_irrefl k hk
    have hnlt : ¬ name < k := String.lt_asymm hk
    rw [put, if_neg hne, if_neg hnlt, ih fun m hm ↦ h m (List.mem_cons_of_mem _ hm)]
    rfl

def gather (members : List (String × Json)) : List (String × Json) :=
  members.foldl (fun acc m ↦ put m.1 m.2 acc) []

theorem ordered_foldl_put {members acc : List (String × Json)} (h : Ordered acc) :
    Ordered (members.foldl (fun acc m ↦ put m.1 m.2 acc) acc) := by
  induction members generalizing acc with
  | nil => exact h
  | cons m rest ih => exact ih (h.put m.1 m.2)

theorem mem_foldl_put {members acc : List (String × Json)} {m : String × Json}
    (h : m ∈ members.foldl (fun acc m ↦ put m.1 m.2 acc) acc) : m ∈ acc ∨ m ∈ members := by
  induction members generalizing acc with
  | nil => exact .inl h
  | cons n rest ih =>
    rcases ih h with h | h
    · rcases mem_put h with rfl | h
      · exact .inr List.mem_cons_self
      · exact .inl h
    · exact .inr (List.mem_cons_of_mem _ h)

theorem member?_ofMembers {name : String} {members : List (String × Json)}
    (h : ∀ m ∈ members, m.1 ≠ name) : (ofMembers members).member? name = none := by
  refine List.lookup_eq_none_iff.mpr fun m hm ↦ bne_iff_ne.mpr fun he ↦ ?_
  exact h m ((mem_foldl_put hm).resolve_left List.not_mem_nil) he.symm

theorem foldl_put_of_ordered {members acc : List (String × Json)} (h : Ordered (acc ++ members)) :
    members.foldl (fun acc m ↦ put m.1 m.2 acc) acc = acc ++ members := by
  induction members generalizing acc with
  | nil => exact (List.append_nil acc).symm
  | cons m rest ih =>
    have hlt : ∀ n ∈ acc, n.1 < m.1 := fun n hn ↦
      (List.pairwise_append.mp h).2.2 n hn m List.mem_cons_self
    rw [List.foldl_cons, put_of_forall_lt hlt, ih (by rwa [List.append_assoc]), List.append_assoc]
    rfl

/-- An object whose names stand in order is the one its members make. -/
theorem ofMembers_of_ordered {members : List (String × Json)} (h : Ordered members) :
    ofMembers members = .obj members :=
  congrArg obj (foldl_put_of_ordered h)

end Json

namespace Document

open Json

mutual

theorem isSome_value?_toDocument (v : Json) : v.toDocument.value?.isSome := by
  cases v with
  | null | bool b | num n | str s => rfl
  | arr items =>
    rw [toDocument, value?, Option.isSome_map]
    exact isSome_values?_toDocuments items
  | obj members =>
    rw [toDocument, value?, Option.isSome_map]
    exact isSome_members?_toMembers members

theorem isSome_values?_toDocuments (vs : List Json) : (values? (toDocuments vs)).isSome := by
  cases vs with
  | nil => rfl
  | cons v rest =>
    obtain ⟨w, hw⟩ := Option.isSome_iff_exists.mp (isSome_value?_toDocument v)
    obtain ⟨ws, hws⟩ := Option.isSome_iff_exists.mp (isSome_values?_toDocuments rest)
    rw [toDocuments, values?, hw, hws]
    rfl

theorem isSome_members?_toMembers (ms : List (String × Json)) : (members? (toMembers ms)).isSome := by
  cases ms with
  | nil => rfl
  | cons m rest =>
    obtain ⟨k, v⟩ := m
    obtain ⟨w, hw⟩ := Option.isSome_iff_exists.mp (isSome_value?_toDocument v)
    obtain ⟨ws, hws⟩ := Option.isSome_iff_exists.mp (isSome_members?_toMembers rest)
    simp only [toMembers, members?, hw, hws, Option.isSome_some]

end

theorem members?_toMembers {members : List (String × Json)}
    (h : ∀ m ∈ members, m.2.toDocument.value? = some m.2) :
    members? (toMembers members) = some members := by
  induction members with
  | nil => rfl
  | cons m rest ih =>
    obtain ⟨k, v⟩ := m
    have hv : v.toDocument.value? = some v := h _ List.mem_cons_self
    simp only [toMembers, members?, hv, ih fun m hm ↦ h m (List.mem_cons_of_mem _ hm)]

mutual

theorem value?_toDocument {d : Document} {v : Json} (h : d.value? = some v) :
    v.toDocument.value? = some v := by
  cases d with
  | null | bool b | num n | str s =>
    cases h
    rfl
  | arr items =>
    obtain ⟨vs, hvs, rfl⟩ := Option.map_eq_some_iff.mp h
    rw [toDocument, value?, values?_toDocuments hvs]
    rfl
  | obj members =>
    obtain ⟨ms, hms, rfl⟩ := Option.map_eq_some_iff.mp h
    have hread : ∀ m ∈ gather ms, m.2.toDocument.value? = some m.2 := by
      intro m hm
      rcases mem_foldl_put hm with hm | hm
      · cases hm
      · exact value?_toDocument_of_mem hms m hm
    have hordered : Ordered (gather ms) := ordered_foldl_put List.Pairwise.nil
    change (Json.obj (gather ms)).toDocument.value? = some (Json.obj (gather ms))
    rw [toDocument, value?, members?_toMembers hread, Option.map_some, ofMembers_of_ordered hordered]
  | unreadable | broken => cases h

theorem values?_toDocuments {ds : List Document} {vs : List Json} (h : values? ds = some vs) :
    values? (toDocuments vs) = some vs := by
  cases ds with
  | nil =>
    cases h
    rfl
  | cons d rest =>
    rw [values?] at h
    split at h
    · next v ws hv hws =>
      cases h
      rw [toDocuments, values?, value?_toDocument hv, values?_toDocuments hws]
    · cases h

theorem value?_toDocument_of_mem {ms : List (Option String × Document)} {members : List (String × Json)}
    (h : members? ms = some members) : ∀ m ∈ members, m.2.toDocument.value? = some m.2 := by
  cases ms with
  | nil =>
    cases h
    exact nofun
  | cons m rest =>
    obtain ⟨k, d⟩ := m
    simp only [members?] at h
    split at h
    · next k v vs hv hvs =>
      cases h
      intro m hm
      rcases List.mem_cons.mp hm with rfl | hm
      · exact value?_toDocument hv
      · exact value?_toDocument_of_mem hvs m hm
    · cases h

end

end Document

namespace Schema

variable {schema : Schema} {α : Type}

def Accepts (schema : Schema) (name : String) (d : Document) : Prop :=
  ∃ f, schema.find? (·.name == name) = some f ∧ f.check d = .ok ()

theorem accepts_of {name : String} (dec : Decoder α) {d : Document} {a : α}
    (hf : schema.find? (·.name == name) = some (.of name dec)) (h : dec d = .ok a) :
    schema.Accepts name d := by
  refine ⟨_, hf, ?_⟩
  simp only [Field.of, h]
  rfl

theorem readMembers_toMembers {row : Row} {members : List (String × Json)}
    (h : ∀ m ∈ members, schema.Accepts m.1 m.2.toDocument) (hn : (members.map Prod.fst).Nodup)
    (hr : ∀ m ∈ members, row.lookup m.1 = none) :
    schema.readMembers row (Json.toMembers members) =
      .ok ((members.map fun m ↦ (m.1, m.2.toDocument)).reverse ++ row) := by
  induction members generalizing row with
  | nil => rfl
  | cons m rest ih =>
    obtain ⟨k, v⟩ := m
    obtain ⟨f, hf, hc⟩ := h _ List.mem_cons_self
    obtain ⟨hk, hrest⟩ := List.nodup_cons.mp hn
    have hnone : row.lookup k = none := hr _ List.mem_cons_self
    have hlater : ∀ m ∈ rest, ((k, v.toDocument) :: row).lookup m.1 = none := by
      intro m hm
      have hne : m.1 ≠ k := fun he ↦ hk (List.mem_map.mpr ⟨m, hm, he⟩)
      rw [List.lookup_cons, beq_eq_false_iff_ne.mpr hne]
      exact hr m (List.mem_cons_of_mem _ hm)
    have hr' := ih (fun m hm ↦ h m (List.mem_cons_of_mem _ hm)) hrest hlater
    simp only [Json.toMembers, readMembers, hf, hnone, hc, List.map_cons, List.reverse_cons,
      List.append_assoc]
    exact hr'

theorem lookup_reverse_of_nodup {row : Row} (h : (row.map Prod.fst).Nodup) (name : String) :
    row.reverse.lookup name = row.lookup name := by
  induction row with
  | nil => rfl
  | cons m rest ih =>
    obtain ⟨k, d⟩ := m
    obtain ⟨hk, hrest⟩ := List.nodup_cons.mp h
    rw [List.reverse_cons, List.lookup_append, ih hrest]
    by_cases hn : name = k
    · subst hn
      have hnone : rest.lookup name = none := List.lookup_eq_none_iff.mpr fun m hm ↦
        bne_iff_ne.mpr fun he ↦ hk (List.mem_map.mpr ⟨m, hm, he.symm⟩)
      simp [hnone]
    · simp [List.lookup_cons, beq_eq_false_iff_ne.mpr hn]

theorem lookup_map_toDocument (members : List (String × Json)) (name : String) :
    (members.map fun m ↦ (m.1, m.2.toDocument)).lookup name =
      (members.lookup name).map Json.toDocument := by
  induction members with
  | nil => rfl
  | cons m rest ih =>
    rw [List.map_cons, List.lookup_cons, List.lookup_cons, ih]
    cases name == m.1 <;> rfl

theorem exists_row {members : List (String × Json)}
    (h : ∀ m ∈ members, schema.Accepts m.1 m.2.toDocument) (hn : (members.map Prod.fst).Nodup) :
    ∃ row, schema.readMembers [] (Json.toMembers members) = .ok row ∧
      ∀ name, row.lookup name = (members.lookup name).map Json.toDocument := by
  refine ⟨_, readMembers_toMembers h hn fun _ _ ↦ rfl, fun name ↦ ?_⟩
  rw [List.append_nil, lookup_reverse_of_nodup, lookup_map_toDocument]
  simpa [Function.comp_def] using hn

end Schema

end Backoffice
