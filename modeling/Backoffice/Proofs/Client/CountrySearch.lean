import Mathlib.Data.List.Basic
import Backoffice.Client.OpenForm
import Backoffice.Proofs.Text.Lowering
import Backoffice.Task.Alone

namespace Backoffice

open Text (StandsIn isBlankText lower trim)

namespace Text

variable {s t : String} {whole : List Char}

/-- What is typed of a text stands in it without the blanks around it, if no sigma is torn out of its word. -/
theorem standsIn_trim (hi : s.toList <:+: whole) (hs : 'Σ' ∈ s.toList → StandsIn (trim s).toList whole) :
    StandsIn (trim s).toList whole := by
  by_cases hm : 'Σ' ∈ s.toList
  · exact hs hm
  · exact standsIn_of_isInfix ((trim_isInfix s).trans hi) fun h ↦ hm ((trim_isInfix s).subset h)

end Text

namespace Country

variable {c : Country} {s t : String}

theorem isFoundBy_iff : c.isFoundBy s = true ↔
    (Text.lower s).toList <:+: (Text.lower c.name).toList ∨ s.toList <:+: c.isdCode.toList := by
  rw [isFoundBy, Bool.or_eq_true, Text.contains_iff, Text.contains_iff]

theorem isFoundBy_of_standsIn (h : StandsIn s.toList c.name.toList) : c.isFoundBy s = true := by
  rw [isFoundBy, Text.contains_lower h, Bool.true_or]

theorem isFoundBy_of_isFoundBy (h : StandsIn s.toList t.toList) (ht : c.isFoundBy t = true) : c.isFoundBy s = true := by
  have hl := Text.contains_iff.mp (Text.contains_lower h)
  exact isFoundBy_iff.mpr ((isFoundBy_iff.mp ht).imp hl.trans h.isInfix.trans)

end Country

namespace Console

variable {countries : List Country} {c : Country} {s t : String}

theorem searchCountries_of_not_blank (h : ¬ isBlankText s) :
    searchCountries s countries = countries.filter (·.isFoundBy (trim s)) := by
  rw [searchCountries]
  exact if_neg (by rwa [Text.isEmpty_trim])

theorem searchCountries_sublist (s : String) (countries : List Country) :
    (searchCountries s countries).Sublist countries := by
  rw [searchCountries]
  split
  · exact List.Sublist.refl _
  · exact List.filter_sublist

theorem run_filterCountries (s : String) (backend : Backend) (x : Console) (tr : List Exchange) :
    (filterCountries s).run backend x tr = ⟨searchCountries s x.context.countries.list.items, x, tr⟩ := rfl

/-- A search of the loaded countries changes nothing and answers some of them, in their order: those with the search in
their name in lower case, or in their dialling code. What is typed of the name of a country finds it, and typing more
finds no other countries, unless a capital sigma is typed that ends a word where it stands and none by itself, or the
other way round. -/
theorem filterCountries_finds (backend : Backend) (x : Console) (tr : List Exchange) :
    let cached := x.context.countries.list.items
    let r (s : String) := (filterCountries s).run backend x tr
    (∀ s, (r s).state = x ∧ (r s).trace = tr ∧ (r s).result.Sublist cached) ∧
    (∀ s, ∀ c ∈ (r s).result, ¬ isBlankText s →
      (lower (trim s)).toList <:+: (lower c.name).toList ∨ (trim s).toList <:+: c.isdCode.toList) ∧
    (∀ s, ∀ c ∈ cached, ¬ isBlankText s → s.toList <:+: c.name.toList →
      ('Σ' ∈ s.toList → StandsIn (trim s).toList c.name.toList) → c ∈ (r s).result) ∧
    ∀ s t, trim s = s → trim t = t → ¬ isBlankText s → s.toList <:+: t.toList →
      ('Σ' ∈ s.toList → StandsIn s.toList t.toList) → (r t).result.Sublist (r s).result := by
  intro cached r
  have hr : ∀ s, r s = ⟨searchCountries s cached, x, tr⟩ := fun s ↦ run_filterCountries s backend x tr
  simp only [hr]
  refine ⟨fun s ↦ ⟨trivial, trivial, searchCountries_sublist s cached⟩, fun s c hc hb ↦ ?_,
    fun s c hc hb hi hs ↦ ?_, fun s t hs ht hb hi hsigma ↦ ?_⟩
  · rw [searchCountries_of_not_blank hb] at hc
    exact Country.isFoundBy_iff.mp (List.mem_filter.mp hc).2
  · rw [searchCountries_of_not_blank hb]
    exact List.mem_filter.mpr ⟨hc, Country.isFoundBy_of_standsIn (Text.standsIn_trim hi hs)⟩
  · have hbt : ¬ isBlankText t := fun h ↦ hb (Text.isBlankText_of_isInfix hi h)
    have hst : StandsIn s.toList t.toList := by
      have hst := Text.standsIn_trim hi (by rwa [hs])
      rwa [hs] at hst
    rw [searchCountries_of_not_blank hb, searchCountries_of_not_blank hbt, hs, ht]
    exact List.monotone_filter_right _ fun c hc ↦ Country.isFoundBy_of_isFoundBy hst hc

/-- The last two letters of a name find it, and so does a part without its sigma, but the sigma alone does not: it ends
the name in one form and is typed in the other. Typing the letter before it as well finds what the sigma did not. -/
theorem filterCountries_finds_but_final_sigma :
    let host : Host := ⟨.empty .memory, ⟨0⟩, fun _ ↦ ⟨List.replicate 32 0, rfl⟩, 0⟩
    let greece : Country := ⟨⟨"gr"⟩, "ΕΛΛΑΣ", "+30", none, ""⟩
    let x : Console := ⟨.blank host,
      { Context.fresh (.ofBase "http://h") "host" with countries := ⟨⟨[greece], false, none, true⟩, 1⟩ }⟩
    let found (s : String) := ((filterCountries s).run (fun _ _ ↦ none) x []).result
    greece ∈ found "ΛΛ" ∧ greece ∈ found "ΑΣ" ∧ (found "ΕΛΛ").Sublist (found "ΛΛ") ∧
      "Σ".toList <:+: greece.name.toList ∧ greece ∉ found "Σ" ∧ ¬ (found "ΑΣ").Sublist (found "Σ") := by
  intro host greece x found
  obtain ⟨-, -, hfinds, hnarrows⟩ := filterCountries_finds (fun _ _ ↦ none) x []
  have hstands : StandsIn "ΑΣ".toList greece.name.toList := by
    refine ⟨"ΕΛΛ".toList, [], by decide, fun left right h ↦ ?_⟩
    have h : ['Α', 'Σ'] = left ++ 'Σ' :: right := h
    rcases left with _ | ⟨a, _ | ⟨b, left⟩⟩
    · simp at h
    · obtain ⟨rfl, rfl⟩ : 'Α' = a ∧ [] = right := by simpa using h
      decide +kernel
    · simp at h
  have hnot : greece ∉ found "Σ" := by decide +kernel
  have hends : greece ∈ found "ΑΣ" := hfinds "ΑΣ" greece (by decide) (by decide) (by decide) fun _ ↦ hstands
  refine ⟨hfinds "ΛΛ" greece (by decide) (by decide) (by decide) fun h ↦ absurd h (by decide), hends,
    hnarrows "ΛΛ" "ΕΛΛ" (by decide) (by decide) (by decide) (by decide) fun h ↦ absurd h (by decide), by decide,
    hnot, fun h ↦ hnot (h.subset hends)⟩

end Console

end Backoffice
