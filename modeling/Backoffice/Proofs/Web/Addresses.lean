import Mathlib.Data.List.TakeWhile
import Backoffice.Proofs.Text.ByteOrder
import Backoffice.Web.Url

namespace Backoffice.Web

theorem hexValue?_upperHex (n : Nat) : hexValue? (upperHex n) = some (n % 16) := by
  have hdigits : ∀ k < 16, hexValue? ((Nat.digitChar k).toUpper) = some k := by decide
  exact hdigits (n % 16) (Nat.mod_lt n (by decide))

theorem decodeBytes_encodeByte (b : UInt8) (cs : List Char) : decodeBytes (encodeByte b ++ cs) = b :: decodeBytes cs := by
  have hb : UInt8.ofNat (b.toNat / 16 % 16 * 16 + b.toNat % 16) = b := by
    have hlt := b.toNat_lt
    rw [show b.toNat / 16 % 16 * 16 + b.toNat % 16 = b.toNat by omega, UInt8.ofNat_toNat]
  simp only [encodeByte, List.cons_append, List.nil_append, decodeBytes, hexValue?_upperHex, hb]

theorem decodeBytes_encodeChar (c : Char) (cs : List Char) :
    decodeBytes (encodeChar c ++ cs) = String.utf8EncodeChar c ++ decodeBytes cs := by
  rw [encodeChar]
  induction String.utf8EncodeChar c with
  | nil => rfl
  | cons b bs ih => rw [List.flatMap_cons, List.append_assoc, decodeBytes_encodeByte, ih, List.cons_append]

theorem decodeBytes_cons_of_ne {c : Char} (h : c ≠ '%') (cs : List Char) :
    decodeBytes (c :: cs) = String.utf8EncodeChar c ++ decodeBytes cs := by
  rw [decodeBytes]
  rintro a b cs' rfl
  exact absurd rfl h

theorem decodeBytes_encodeUnless (plain : Char → Bool) {cs : List Char} (h : '%' ∉ cs) :
    decodeBytes (encodeUnless plain cs) = cs.flatMap String.utf8EncodeChar := by
  induction cs with
  | nil => rfl
  | cons c cs ih =>
    obtain ⟨hc, hcs⟩ := List.ne_and_not_mem_of_not_mem_cons h
    rw [List.flatMap_cons, ← ih hcs, encodeUnless, List.flatMap_cons]
    split
    · exact decodeBytes_cons_of_ne (Ne.symm hc) _
    · exact decodeBytes_encodeChar c _

theorem encodeUnless_inj {plain : Char → Bool} {cs ds : List Char} (hc : '%' ∉ cs) (hd : '%' ∉ ds)
    (h : encodeUnless plain cs = encodeUnless plain ds) : cs = ds := by
  have hbytes := congrArg decodeBytes h
  rw [decodeBytes_encodeUnless plain hc, decodeBytes_encodeUnless plain hd] at hbytes
  exact Text.flatMap_encode_inj hbytes

theorem encodeUnless_append (plain : Char → Bool) (cs ds : List Char) :
    encodeUnless plain (cs ++ ds) = encodeUnless plain cs ++ encodeUnless plain ds := List.flatMap_append

theorem splitOn_cons (c x : Char) (cs : List Char) :
    ∃ part rest, splitOn c cs = part :: rest ∧
      splitOn c (x :: cs) = if x == c then [] :: part :: rest else (x :: part) :: rest := by
  have hne : splitOn c cs ≠ [] := by
    induction cs with
    | nil => exact List.cons_ne_nil _ _
    | cons y cs ih =>
      obtain ⟨part, rest, hp⟩ := List.exists_cons_of_ne_nil ih
      rw [splitOn, List.foldr_cons, ← splitOn, hp]
      dsimp only
      split <;> exact List.cons_ne_nil _ _
  obtain ⟨part, rest, hp⟩ := List.exists_cons_of_ne_nil hne
  exact ⟨part, rest, hp, by rw [splitOn, List.foldr_cons, ← splitOn, hp]⟩

theorem splitOn_ne_nil (c : Char) (cs : List Char) : splitOn c cs ≠ [] := by
  obtain ⟨part, rest, h, -⟩ := splitOn_cons c c cs
  rw [h]
  exact List.cons_ne_nil _ _

theorem splitOn_append (c : Char) (cs ds : List Char) : splitOn c (cs ++ c :: ds) = splitOn c cs ++ splitOn c ds := by
  induction cs with
  | nil =>
    obtain ⟨part, rest, h, hcons⟩ := splitOn_cons c c ds
    rw [List.nil_append, hcons, if_pos (beq_self_eq_true c), h]
    rfl
  | cons x cs ih =>
    obtain ⟨part, rest, h, hcons⟩ := splitOn_cons c x cs
    obtain ⟨part', rest', h', hcons'⟩ := splitOn_cons c x (cs ++ c :: ds)
    rw [ih, h, List.cons_append, List.cons.injEq] at h'
    obtain ⟨rfl, rfl⟩ := h'
    rw [List.cons_append, hcons', hcons]
    split <;> rfl

theorem splitOn_of_not_mem {c : Char} {cs : List Char} (h : c ∉ cs) : splitOn c cs = [cs] := by
  induction cs with
  | nil => rfl
  | cons x cs ih =>
    obtain ⟨hx, hcs⟩ := List.ne_and_not_mem_of_not_mem_cons h
    rw [splitOn, List.foldr_cons, ← splitOn, ih hcs]
    exact if_neg fun hxc ↦ hx (beq_iff_eq.mp hxc).symm

theorem flatMap_splitOn (plain : Char → Bool) (hp : plain '/') (cs : List Char) :
    (splitOn '/' cs).flatMap (fun s ↦ '/' :: encodeUnless plain s) = '/' :: encodeUnless plain cs := by
  induction cs with
  | nil => rfl
  | cons x cs ih =>
    obtain ⟨part, rest, h, hcons⟩ := splitOn_cons '/' x cs
    rw [h, List.flatMap_cons, List.cons_append, List.cons.injEq] at ih
    rw [hcons, encodeUnless, List.flatMap_cons, ← encodeUnless, ← ih.2]
    split
    · next hx =>
      obtain rfl := beq_iff_eq.mp hx
      rw [List.flatMap_cons, List.flatMap_cons, if_pos (by simp [hp])]
      rfl
    · rw [List.flatMap_cons, encodeUnless, List.flatMap_cons, ← encodeUnless]
      simp only [List.cons_append, List.append_assoc]

namespace Url

def keep (kept : List (List Char)) (s : List Char) : List (List Char) :=
  if isDoubleDot s then kept.tail else if isSingleDot s then kept else s :: kept

theorem resolve_cons (kept : List (List Char)) (s : List Char) {rest : List (List Char)} (h : rest ≠ []) :
    resolve kept (s :: rest) = resolve (keep kept s) rest := by
  obtain ⟨t, ts, rfl⟩ := List.exists_cons_of_ne_nil h
  rw [resolve, keep]
  · split
    · rfl
    · split <;> rfl
  · exact List.cons_ne_nil t ts

theorem resolve_append (kept front : List (List Char)) {back : List (List Char)} (h : back ≠ []) :
    resolve kept (front ++ back) = resolve (front.foldl keep kept) back := by
  induction front generalizing kept with
  | nil => rfl
  | cons s front ih =>
    rw [List.cons_append, resolve_cons kept s (List.append_ne_nil_of_right_ne_nil _ h), ih, List.foldl_cons]

theorem resolve_of_plain {segments : List (List Char)} (h : ∀ s ∈ segments, ¬ isDoubleDot s ∧ ¬ isSingleDot s)
    (kept : List (List Char)) : resolve kept segments = kept.reverse ++ segments := by
  induction segments generalizing kept with
  | nil => rw [resolve, List.append_nil]
  | cons s rest ih =>
    obtain ⟨hdouble, hsingle⟩ := h s List.mem_cons_self
    by_cases hrest : rest = []
    · rw [hrest, resolve, if_neg hdouble, if_neg hsingle, List.reverse_cons]
    · rw [resolve_cons kept s hrest, keep, if_neg hdouble, if_neg hsingle,
        ih (fun t ht ↦ h t (List.mem_cons_of_mem _ ht)), List.reverse_cons, List.append_assoc]
      rfl

def slashed (c : Char) : Char := if c == '\\' then '/' else c

theorem map_slashed {cs : List Char} (h : '\\' ∉ cs) : cs.map slashed = cs := by
  refine (List.map_congr_left fun c hc ↦ ?_).trans (List.map_id cs)
  exact if_neg fun (he : (c == '\\') = true) ↦ h (beq_iff_eq.mp he ▸ hc)

def bare (cs : List Char) : List Char := if cs.head? = some '/' then cs.tail else cs

def written (segments : List (List Char)) : List Char := segments.flatMap fun s ↦ '/' :: encodeUnless inPath s

theorem written_splitOn (cs : List Char) : written (splitOn '/' cs) = '/' :: encodeUnless inPath cs :=
  flatMap_splitOn inPath (by decide) cs

theorem toList_pathOf (cs : List Char) :
    (pathOf .web cs).toList = written (resolve [] (splitOn '/' (bare (cs.map slashed)))) := by
  have hslashed : (if Kind.web.isSpecial then cs.map fun c ↦ if c == '\\' then '/' else c else cs) = cs.map slashed :=
    rfl
  rw [pathOf, String.toList_ofList, hslashed]
  split
  · next rest hr => rw [hr]; rfl
  · next hn =>
    have hbare : bare (cs.map slashed) = cs.map slashed := if_neg fun hh ↦ by
      obtain ⟨rest, hr⟩ := List.head?_eq_some_iff.mp hh
      exact hn rest hr
    rw [hbare]
    rfl

/-- The path of an address of the web ends with the segments at its end, as they are encoded. Before them is what the
beginning comes to, whatever they are. -/
theorem exists_pathOf_append (front : List Char) : ∃ kept : List Char, ∀ cs, '\\' ∉ cs →
    (∀ s ∈ splitOn '/' cs, ¬ isDoubleDot s ∧ ¬ isSingleDot s) →
    (pathOf .web (front ++ '/' :: cs)).toList = kept ++ '/' :: encodeUnless inPath cs := by
  have hread (cs : List Char) (hb : '\\' ∉ cs) : (pathOf .web (front ++ '/' :: cs)).toList =
      written (resolve [] (splitOn '/' (bare (front.map slashed ++ '/' :: cs)))) := by
    rw [toList_pathOf, List.map_append, List.map_cons, map_slashed hb]
    rfl
  have hbehind (before : List Char) : ∃ kept, ∀ cs, (∀ s ∈ splitOn '/' cs, ¬ isDoubleDot s ∧ ¬ isSingleDot s) →
      written (resolve [] (splitOn '/' (before ++ '/' :: cs))) = kept ++ '/' :: encodeUnless inPath cs := by
    refine ⟨written ((splitOn '/' before).foldl keep []).reverse, fun cs hs ↦ ?_⟩
    rw [splitOn_append, resolve_append _ _ (splitOn_ne_nil '/' cs), resolve_of_plain hs, ← written_splitOn]
    exact List.flatMap_append
  -- a slash at the very beginning does not count, be it of the beginning or the one between the two
  cases hfront : front.map slashed with
  | nil =>
    refine ⟨[], fun cs hb hs ↦ ?_⟩
    rw [hread cs hb, hfront]
    exact (congrArg written (resolve_of_plain hs [])).trans (written_splitOn cs)
  | cons x before =>
    by_cases hx : x = '/'
    · obtain ⟨kept, hkept⟩ := hbehind before
      refine ⟨kept, fun cs hb hs ↦ ?_⟩
      rw [hread cs hb, hfront, hx]
      exact hkept cs hs
    · obtain ⟨kept, hkept⟩ := hbehind (x :: before)
      refine ⟨kept, fun cs hb hs ↦ ?_⟩
      have hbare : bare (x :: before ++ '/' :: cs) = x :: before ++ '/' :: cs :=
        if_neg fun hh ↦ hx (Option.some.inj hh)
      rw [hread cs hb, hfront, hbare, hkept cs hs]

/-- A text that can be added to an address: segments of a path, none of them dots, and perhaps a query, where every
character stands for itself. -/
structure Plain (p : List Char) : Prop where
  slash : p.head? = some '/'
  visible : ∀ c ∈ p, 0x20 < c.toNat
  noBackslash : '\\' ∉ p
  noFragment : '#' ∉ p
  noPercent : '%' ∉ p
  noDots : ∀ s ∈ splitOn '/' (splitTail p).1.tail, ¬ isDoubleDot s ∧ ¬ isSingleDot s

variable {front path query p q : List Char}

theorem takeWhile_of_not_mem {c : Char} {cs : List Char} (h : c ∉ cs) : cs.takeWhile (· != c) = cs :=
  List.takeWhile_eq_self_iff.mpr fun _ hx ↦ bne_iff_ne.mpr fun he ↦ h (he ▸ hx)

theorem splitTail_path (hf : '#' ∉ path) (hq : '?' ∉ path) : splitTail path = (path, none) := by
  have hdrop : path.dropWhile (· != '?') = [] :=
    List.dropWhile_eq_nil_iff.mpr fun _ hc ↦ bne_iff_ne.mpr fun he ↦ hq (he ▸ hc)
  simp only [splitTail, takeWhile_of_not_mem hf, hdrop]

theorem splitTail_query (hf : '#' ∉ path ++ '?' :: query) (hq : '?' ∉ path) :
    splitTail (path ++ '?' :: query) = (path, some query) := by
  have hplain : ∀ c ∈ path, (c != '?') = true := fun c hc ↦ bne_iff_ne.mpr fun he ↦ hq (he ▸ hc)
  have hdrop : (path ++ '?' :: query).dropWhile (· != '?') = '?' :: query := by
    rw [List.dropWhile_append_of_pos hplain]
    rfl
  have htake : (path ++ '?' :: query).takeWhile (· != '?') = path := by
    rw [List.takeWhile_append_of_pos hplain]
    exact List.append_nil path
  simp only [splitTail, takeWhile_of_not_mem hf, hdrop, htake]

theorem path_or_query (p : List Char) : '?' ∉ p ∨ ∃ path query, '?' ∉ path ∧ p = path ++ '?' :: query := by
  by_cases h : '?' ∈ p
  · obtain ⟨path, query, hp, hq⟩ := List.eq_append_cons_of_mem h
    exact .inr ⟨path, query, hq, hp⟩
  · exact .inl h

theorem splitTail_append_of_query (hf : '#' ∉ (path ++ '?' :: query) ++ p) (hq : '?' ∉ path) :
    splitTail ((path ++ '?' :: query) ++ p) = (path, some (query ++ p)) := by
  rw [List.append_assoc, List.cons_append] at hf ⊢
  exact splitTail_query hf hq

theorem splitTail_append_of_path (hf : '#' ∉ front ++ p) (hq : '?' ∉ front) :
    splitTail (front ++ p) = (front ++ (splitTail p).1, (splitTail p).2) := by
  have hp : '#' ∉ p := fun h ↦ hf (List.mem_append_right _ h)
  rcases path_or_query p with hnone | ⟨path, query, hpath, rfl⟩
  · rw [splitTail_path hp hnone, splitTail_path hf (by simp [hq, hnone])]
  · rw [splitTail_query hp hpath]
    rw [← List.append_assoc] at hf ⊢
    exact splitTail_query hf (by simp [hq, hpath])

theorem splitTail_inj (hp : '#' ∉ p) (hq : '#' ∉ q) (h : splitTail p = splitTail q) : p = q := by
  rcases path_or_query p with hnone | ⟨path, query, hpath, rfl⟩ <;>
    rcases path_or_query q with hnone' | ⟨path', query', hpath', rfl⟩
  · rw [splitTail_path hp hnone, splitTail_path hq hnone'] at h
    exact (Prod.mk.inj h).1
  · rw [splitTail_path hp hnone, splitTail_query hq hpath'] at h
    cases h
  · rw [splitTail_query hp hpath, splitTail_path hq hnone'] at h
    cases h
  · rw [splitTail_query hp hpath, splitTail_query hq hpath'] at h
    cases h
    rfl

namespace Plain

theorem subset_path (hp : Plain p) : (splitTail p).1 ⊆ p := by
  rcases path_or_query p with hnone | ⟨path, query, hpath, rfl⟩
  · rw [splitTail_path hp.noFragment hnone]
    exact List.Subset.refl p
  · rw [splitTail_query hp.noFragment hpath]
    exact List.subset_append_left path _

theorem subset_query (hp : Plain p) (h : (splitTail p).2 = some query) : query ⊆ p := by
  rcases path_or_query p with hnone | ⟨path, query', hpath, rfl⟩
  · rw [splitTail_path hp.noFragment hnone] at h
    cases h
  · rw [splitTail_query hp.noFragment hpath] at h
    cases h
    exact List.Subset.trans (List.subset_cons_self _ _) (List.subset_append_right path _)

theorem path_eq (hp : Plain p) : (splitTail p).1 = '/' :: (splitTail p).1.tail := by
  have hslash := hp.slash
  rcases path_or_query p with hnone | ⟨path, query, hpath, rfl⟩
  · rw [splitTail_path hp.noFragment hnone]
    exact List.eq_cons_of_mem_head? hslash
  · rw [splitTail_query hp.noFragment hpath]
    cases path with
    | nil => cases hslash
    | cons c path =>
      cases hslash
      rfl

/-- The path of an address with a plain text at its end tells the path of that text. -/
theorem path_inj (hp : Plain p) (hq : Plain q)
    (h : pathOf .web (front ++ (splitTail p).1) = pathOf .web (front ++ (splitTail q).1)) :
    (splitTail p).1 = (splitTail q).1 := by
  obtain ⟨kept, hkept⟩ := exists_pathOf_append front
  have hread {r : List Char} (hr : Plain r) :
      (pathOf .web (front ++ (splitTail r).1)).toList = kept ++ '/' :: encodeUnless inPath (splitTail r).1.tail := by
    rw [hr.path_eq]
    exact hkept _ (fun hm ↦ hr.noBackslash (hr.subset_path (List.mem_of_mem_tail hm))) hr.noDots
  have hpercent {r : List Char} (hr : Plain r) : '%' ∉ (splitTail r).1.tail :=
    fun hm ↦ hr.noPercent (hr.subset_path (List.mem_of_mem_tail hm))
  have hwritten := congrArg String.toList h
  rw [hread hp, hread hq, List.append_cancel_left_eq, List.cons.injEq] at hwritten
  rw [hp.path_eq, hq.path_eq, encodeUnless_inj (hpercent hp) (hpercent hq) hwritten.2]

theorem query_inj (hp : Plain p) (hq : Plain q)
    (h : (splitTail p).2.map (queryOf .web) = (splitTail q).2.map (queryOf .web)) :
    (splitTail p).2 = (splitTail q).2 := by
  cases hp2 : (splitTail p).2 with
  | none =>
    rw [hp2] at h
    exact (Option.map_eq_none_iff.mp h.symm).symm
  | some query =>
    rw [hp2] at h
    obtain ⟨query', hq2, hwritten⟩ := Option.map_eq_some_iff.mp h.symm
    rw [hq2, Option.some.injEq]
    exact (encodeUnless_inj (fun hm ↦ hq.noPercent (hq.subset_query hq2 hm))
      (fun hm ↦ hp.noPercent (hp.subset_query hp2 hm)) (String.ofList_injective hwritten)).symm

/-- What follows an authority tells the plain text at its end. -/
theorem tailOf_inj (hf : '#' ∉ front) (hp : Plain p) (hq : Plain q) {scheme : List Char} {host : Option String}
    {portNumber : Option Nat}
    (h : tailOf .web scheme host portNumber (front ++ p) = tailOf .web scheme host portNumber (front ++ q)) :
    p = q := by
  have hp' : '#' ∉ front ++ p := by simp [hf, hp.noFragment]
  have hq' : '#' ∉ front ++ q := by simp [hf, hq.noFragment]
  have hread (cs : List Char) : tailOf .web scheme host portNumber cs =
      ⟨String.ofList scheme, host, portNumber, pathOf .web (splitTail cs).1, (splitTail cs).2.map (queryOf .web)⟩ := by
    simp [tailOf, Kind.isSpecial]
  rw [hread, hread, Url.mk.injEq] at h
  obtain ⟨-, -, -, hpath, hquery⟩ := h
  rcases path_or_query front with hnone | ⟨path, query, hfirst, rfl⟩
  · rw [splitTail_append_of_path hp' hnone, splitTail_append_of_path hq' hnone] at hpath hquery
    exact splitTail_inj hp.noFragment hq.noFragment (Prod.ext (hp.path_inj hq hpath) (hp.query_inj hq hquery))
  · -- all that is added belongs to the query
    rw [splitTail_append_of_query hp' hfirst, splitTail_append_of_query hq' hfirst, Option.map_some, Option.map_some,
      Option.some.injEq] at hquery
    have hwritten := String.ofList_injective hquery
    rw [encodeUnless_append, encodeUnless_append, List.append_cancel_left_eq] at hwritten
    exact encodeUnless_inj hp.noPercent hq.noPercent hwritten

end Plain

theorem eq_of_toLower_eq {c d : Char} (h : c.toLower = d) (hd : ¬ d.isLower) : c = d := by
  by_cases hupper : c.val ≥ 'A'.val ∧ c.val ≤ 'Z'.val
  · have hlow : c.toLower.val = c.val + ('a'.val - 'A'.val) := congrArg Char.val (dif_pos hupper)
    have hA : 65 ≤ c.val.toNat := hupper.1
    have hZ : c.val.toNat ≤ 90 := hupper.2
    have hval : d.val.toNat = c.val.toNat + 32 := by
      have hgap : ('a'.val - 'A'.val).toNat = 32 := rfl
      rw [← h, hlow, UInt32.toNat_add, hgap]
      omega
    have hlower : 97 ≤ d.val.toNat ∧ d.val.toNat ≤ 122 := by omega
    exact absurd (Bool.and_eq_true_iff.mpr (hlower.imp decide_eq_true decide_eq_true)) hd
  · exact ((dif_neg hupper : c.toLower = c).symm).trans h

structure Segment (s : List Char) : Prop where
  visible : ∀ c ∈ s, 0x20 < c.toNat
  noMark : ∀ c ∈ ['/', '\\', '?', '#', '%'], c ∉ s
  noDot : s ≠ ['.']
  noDots : s ≠ ['.', '.']

variable {s : List Char}

theorem Segment.of_letters (h : s.all Char.isAlpha) : Segment s := by
  have hnone {c : Char} (hc : ¬ c.isAlpha) : c ∉ s := fun hs ↦ hc (List.all_eq_true.mp h c hs)
  constructor
  case visible =>
    intro c hc
    have hletter := List.all_eq_true.mp h c hc
    rcases Bool.or_eq_true_iff.mp hletter with hupper | hlower
    · have hbounds : c.val ≥ 'A'.val ∧ c.val ≤ 'Z'.val := of_decide_eq_true hupper
      have hA : 65 ≤ c.toNat := hbounds.1
      omega
    · have hbounds : (decide (c.val ≥ 'a'.val) && decide (c.val ≤ 'z'.val)) = true := hlower
      have ha : 97 ≤ c.toNat := of_decide_eq_true (Bool.and_eq_true_iff.mp hbounds).1
      omega
  case noMark =>
    have hmark : ['/', '\\', '?', '#', '%'].all fun c ↦ !c.isAlpha := by decide
    exact fun c hc ↦ hnone (by simpa using List.all_eq_true.mp hmark c hc)
  case noDot => exact fun hs ↦ hnone (c := '.') (by decide) (hs ▸ List.mem_cons_self)
  case noDots => exact fun hs ↦ hnone (c := '.') (by decide) (hs ▸ List.mem_cons_self)

theorem Segment.not_dots (hs : Segment s) : ¬ isDoubleDot s ∧ ¬ isSingleDot s := by
  have hpercent : '%' ∉ s.map Char.toLower := fun h ↦ by
    obtain ⟨c, hc, hlow⟩ := List.mem_map.mp h
    exact hs.noMark '%' (by decide) (eq_of_toLower_eq hlow (by decide) ▸ hc)
  have hdots {dots : List Char} (h : s.map Char.toLower = dots) (hd : ∀ d ∈ dots, d = '.') : s = dots := by
    subst h
    refine (List.map_id s).symm.trans (List.map_congr_left fun c hc ↦ ?_)
    have hdot := hd _ (List.mem_map_of_mem hc)
    exact (eq_of_toLower_eq hdot (by decide)).trans hdot.symm
  constructor
  · intro h
    simp only [isDoubleDot, List.contains_eq_mem, List.mem_cons, List.not_mem_nil, or_false, decide_eq_true_eq] at h
    rcases h with h | h | h | h
    · exact hs.noDots (hdots h (by simp))
    all_goals exact hpercent (h ▸ by decide)
  · intro h
    rw [isSingleDot, Bool.or_eq_true, beq_iff_eq, beq_iff_eq] at h
    rcases h with h | h
    · exact hs.noDot h
    · exact hpercent (h ▸ by decide)

theorem Plain.append_segment (hp : Plain p) (hq : '?' ∉ p) (hs : Segment s) : Plain (p ++ '/' :: s) := by
  have hmark {c : Char} (hc : c ∈ ['\\', '?', '#', '%']) (h : c ∉ p) : c ∉ p ++ '/' :: s := by
    have hslash : c ≠ '/' := by
      rintro rfl
      revert hc
      decide
    simp [h, hslash, hs.noMark c (List.mem_cons_of_mem _ hc)]
  have hfragment := hmark (by decide) hp.noFragment
  constructor
  case slash => rw [List.head?_append, hp.slash]; rfl
  case visible =>
    intro c hc
    rcases List.mem_append.mp hc with h | h
    · exact hp.visible c h
    · rcases List.mem_cons.mp h with rfl | h
      · decide
      · exact hs.visible c h
  case noBackslash => exact hmark (by decide) hp.noBackslash
  case noFragment => exact hfragment
  case noPercent => exact hmark (by decide) hp.noPercent
  case noDots =>
    have hdots := hp.noDots
    obtain ⟨more, rfl⟩ := List.head?_eq_some_iff.mp hp.slash
    rw [splitTail_path hp.noFragment hq, List.tail_cons] at hdots
    rw [splitTail_path hfragment (hmark (by decide) hq), List.cons_append, List.tail_cons, splitOn_append,
      splitOn_of_not_mem (hs.noMark '/' (by decide))]
    intro t ht
    rcases List.mem_append.mp ht with h | h
    · exact hdots t h
    · rw [List.mem_singleton.mp h]
      exact hs.not_dots

section Beginning

variable {base text : String} {scheme rest cs : List Char} {u : Url}

theorem takeWhile_append_of_stop {f : Char → Bool} {c : Char} (h : ¬ f c) (front more : List Char) :
    (front ++ c :: more).takeWhile f = front.takeWhile f := by
  induction front with
  | nil => exact List.takeWhile_cons_of_neg h
  | cons x front ih =>
    by_cases hx : f x
    · rw [List.cons_append, List.takeWhile_cons_of_pos hx, List.takeWhile_cons_of_pos hx, ih]
    · rw [List.cons_append, List.takeWhile_cons_of_neg hx, List.takeWhile_cons_of_neg hx]

theorem dropWhile_append_of_ne_nil {f : Char → Bool} (h : cs.dropWhile f ≠ []) (more : List Char) :
    (cs ++ more).dropWhile f = cs.dropWhile f ++ more := by
  rw [List.dropWhile_append, if_neg (by simpa using h)]

theorem scheme?_eq_some_iff : scheme? cs = some (scheme, rest) ↔
    ∃ c name, cs = (c :: name) ++ ':' :: rest ∧ c.isAlpha ∧ (∀ x ∈ c :: name, schemeChar x) ∧
      scheme = (c :: name).map Char.toLower := by
  constructor
  · intro h
    cases cs with
    | nil => cases h
    | cons c cs =>
      rw [scheme?] at h
      split at h
      · next halpha =>
        have hname : (c :: cs).takeWhile schemeChar = c :: cs.takeWhile schemeChar :=
          List.takeWhile_cons_of_pos (by simp [schemeChar, Char.isAlphanum, halpha])
        have hwhole := List.takeWhile_append_dropWhile (p := schemeChar) (l := c :: cs)
        have hall : ∀ x ∈ (c :: cs).takeWhile schemeChar, schemeChar x := fun _ hx ↦ List.mem_takeWhile_imp hx
        rw [hname] at h hwhole hall
        split at h
        · next after hafter =>
          cases h
          rw [hafter] at hwhole
          exact ⟨c, cs.takeWhile schemeChar, hwhole.symm, halpha, hall, rfl⟩
        · cases h
      · cases h
  · rintro ⟨c, name, rfl, halpha, hall, rfl⟩
    have hdrop : ((c :: name) ++ ':' :: rest).dropWhile schemeChar = ':' :: rest := by
      rw [List.dropWhile_append_of_pos hall]
      rfl
    have htake : ((c :: name) ++ ':' :: rest).takeWhile schemeChar = c :: name := by
      rw [takeWhile_append_of_stop (by decide), List.takeWhile_eq_self_iff.mpr hall]
    rw [List.cons_append] at hdrop htake ⊢
    simp only [scheme?, if_pos halpha, hdrop, htake]

/-- A scheme that is read is read again, whatever else follows it. -/
theorem scheme?_append (h : scheme? cs = some (scheme, rest)) (more : List Char) :
    scheme? (cs ++ more) = some (scheme, rest ++ more) := by
  obtain ⟨c, name, rfl, halpha, hall, hs⟩ := scheme?_eq_some_iff.mp h
  exact scheme?_eq_some_iff.mpr ⟨c, name, by simp, halpha, hall, hs⟩

theorem subset_of_scheme? (h : scheme? cs = some (scheme, rest)) : rest ⊆ cs := by
  obtain ⟨c, name, rfl, -⟩ := scheme?_eq_some_iff.mp h
  exact List.Subset.trans (List.subset_cons_self _ _) (List.subset_append_right _ _)

theorem parse?_of_web (h : scheme? (clean text) = some (scheme, rest)) (hk : Kind.ofScheme scheme = .web) :
    parse? text = afterSlashes? .web scheme (rest.dropWhile Kind.web.isSlash) := by
  simp only [parse?, h, hk, Option.bind_eq_bind, Option.bind_some]

theorem scheme_of_afterSlashes? {k : Kind} (h : afterSlashes? k scheme cs = some u) :
    u.scheme = String.ofList scheme := by
  simp only [afterSlashes?, Option.bind_eq_bind, Option.bind_eq_some_iff] at h
  obtain ⟨a, -, hu⟩ := h
  cases hu
  rfl

theorem exists_scheme?_of_parse? (h : parse? text = some u) :
    ∃ scheme rest, scheme? (clean text) = some (scheme, rest) ∧ u.scheme = String.ofList scheme := by
  cases hs : scheme? (clean text) with
  | none => simp [parse?, hs] at h
  | some read =>
    obtain ⟨scheme, rest⟩ := read
    refine ⟨scheme, rest, rfl, ?_⟩
    simp only [parse?, hs, Option.bind_eq_bind, Option.bind_some] at h
    split at h
    · exact scheme_of_afterSlashes? h
    · split at h
      · split at h
        · exact scheme_of_afterSlashes? h
        · cases h
          rfl
      · cases h
        rfl
    · split at h
      · exact scheme_of_afterSlashes? h
      · cases h
        rfl
      · cases h
        rfl

theorem afterSlashes?_append (front : List Char) (hp : Plain p) :
    afterSlashes? .web scheme (front ++ p) =
      (authority? .web (front.takeWhile fun c ↦ !endsAuthority .web c)).map fun a ↦
        tailOf .web scheme a.1 a.2 (front.drop (front.takeWhile fun c ↦ !endsAuthority .web c).length ++ p) := by
  obtain ⟨more, rfl⟩ := List.head?_eq_some_iff.mp hp.slash
  have hlen := (List.takeWhile_prefix (fun c ↦ !endsAuthority .web c) (l := front)).length_le
  rw [afterSlashes?, takeWhile_append_of_stop (by decide), List.drop_append_of_le_length hlen]
  cases authority? .web (front.takeWhile fun c ↦ !endsAuthority .web c) <;> rfl

/-- Cleaning takes nothing of a plain text, and the same of what stands before it whatever that text is. -/
theorem clean_append (base : String) : ∃ more, clean base ++ more ⊆ base.toList ∧
    ∀ p, Plain p → clean (base ++ String.ofList p) = (clean base ++ more) ++ p := by
  let outer (c : Char) : Bool := c.toNat ≤ 0x20
  let inner (c : Char) : Bool := c != '\t' && c != '\n' && c != '\r'
  have hread (s : String) : clean s = (Text.dropTrailing outer (s.toList.dropWhile outer)).filter inner := rfl
  obtain ⟨blank, hblank⟩ := Text.dropTrailing_isPrefix outer (base.toList.dropWhile outer)
  have hopening : clean base ++ blank.filter inner = (base.toList.dropWhile outer).filter inner := by
    rw [hread, ← List.filter_append, hblank]
  refine ⟨blank.filter inner, ?_, fun p hp ↦ ?_⟩
  · rw [hopening]
    exact List.Subset.trans (List.filter_subset_self _) (List.dropWhile_subset outer)
  have hvisible : ∀ c ∈ p, ¬ outer c := fun c hc ↦ by simpa [outer] using hp.visible c hc
  have hdrop : (base.toList ++ p).dropWhile outer = base.toList.dropWhile outer ++ p := by
    rw [List.dropWhile_append]
    split
    · next h =>
      obtain ⟨more, rfl⟩ := List.head?_eq_some_iff.mp hp.slash
      rw [List.isEmpty_iff.mp h, List.nil_append]
      exact List.dropWhile_cons_of_neg (by decide)
    · rfl
  have htrail : Text.dropTrailing outer (base.toList.dropWhile outer ++ p) = base.toList.dropWhile outer ++ p := by
    rcases List.eq_nil_or_concat p with rfl | ⟨init, c, rfl⟩
    · cases hp.slash
    · rw [List.concat_eq_append, ← List.append_assoc]
      exact Text.dropTrailing_append_of_neg (hvisible c (by simp)) _
  have hfilter : p.filter inner = p := by
    refine List.filter_eq_self.mpr fun c hc ↦ ?_
    have hne {d : Char} (hd : outer d) : c ≠ d := fun he ↦ hvisible c hc (he ▸ hd)
    simp [inner, hne (d := '\t') rfl, hne (d := '\n') rfl, hne (d := '\r') rfl]
  rw [hopening, hread, String.toList_append, String.toList_ofList, hdrop, htrail, List.filter_append, hfilter]

theorem isWeb_of_isHttp (h : u.isHttp) (hs : u.scheme = String.ofList scheme) : Kind.ofScheme scheme = .web := by
  simp only [isHttp, hs, Bool.and_eq_true, Bool.or_eq_true, beq_iff_eq] at h
  obtain ⟨h | h, -⟩ := h <;> simp [Kind.ofScheme, h]

theorem dropWhile_ne_nil_of_afterSlashes? (h : (afterSlashes? .web scheme cs).isSome) : cs ≠ [] := by
  rintro rfl
  revert h
  simp [afterSlashes?, authority?, dropUser, splitHost, portNumber?]

/-- Two plain texts behind the same base that come to the same address of the web are the same. -/
theorem parse?_append_inj (hbase : (parse? base).isSome) (hf : '#' ∉ base.toList) (hp : Plain p) (hq : Plain q)
    (hu : u.isHttp) (h : parse? (base ++ String.ofList p) = some u) (h' : parse? (base ++ String.ofList q) = some u) :
    p = q := by
  obtain ⟨more, hsub, hclean⟩ := clean_append base
  obtain ⟨b, hb⟩ := Option.isSome_iff_exists.mp hbase
  obtain ⟨scheme, rest, hscheme, -⟩ := exists_scheme?_of_parse? hb
  have hlong {r : List Char} (hr : Plain r) :
      scheme? (clean (base ++ String.ofList r)) = some (scheme, (rest ++ more) ++ r) := by
    rw [hclean r hr, List.append_assoc, scheme?_append hscheme, List.append_assoc]
  have hweb : Kind.ofScheme scheme = .web := by
    obtain ⟨scheme', rest', hread, hs⟩ := exists_scheme?_of_parse? h
    rw [hlong hp, Option.some.injEq, Prod.mk.injEq] at hread
    exact isWeb_of_isHttp hu (hread.1 ▸ hs)
  rw [parse?_of_web hscheme hweb] at hbase
  have hne := dropWhile_ne_nil_of_afterSlashes? hbase
  have hread {r : List Char} (hr : Plain r) : parse? (base ++ String.ofList r) =
      afterSlashes? .web scheme ((rest.dropWhile Kind.web.isSlash ++ more) ++ r) := by
    rw [parse?_of_web (hlong hr) hweb, List.append_assoc, dropWhile_append_of_ne_nil hne, List.append_assoc]
  rw [hread hp, afterSlashes?_append _ hp, Option.map_eq_some_iff] at h
  rw [hread hq, afterSlashes?_append _ hq, Option.map_eq_some_iff] at h'
  obtain ⟨a, ha, htail⟩ := h
  obtain ⟨a', ha', htail'⟩ := h'
  rw [ha, Option.some.injEq] at ha'
  subst ha'
  refine Plain.tailOf_inj (fun hm ↦ hf ?_) hp hq (htail.trans htail'.symm)
  have hfront := List.mem_append.mp (List.mem_of_mem_drop hm)
  refine hsub (List.mem_append.mpr (hfront.imp_left fun hr ↦ ?_))
  exact subset_of_scheme? hscheme (List.dropWhile_subset _ hr)

end Beginning

end Url

end Backoffice.Web
