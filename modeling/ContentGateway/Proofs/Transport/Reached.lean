import Mathlib
import ContentGateway.Proofs.Transport.Target

/-!
# Addresses with parameters that a request can go to

Encoded parameters have no blank, no angle bracket, no number sign and neither of the two characters
that end a scheme. So behind a text with a slash in it they have no part in whether a request can go
there: what is taken off the address is taken off the text, and the scheme is looked for in the
text.
-/

namespace ContentGateway

namespace Request

variable {cs q : List Char}

/-- What a text holds that stands in front of parameters: the blanks and a `URL:` are taken off its
beginning. -/
def opened (cs : List Char) : List Char :=
  if "URL:".toList.isPrefixOf (cs.dropWhile Text.isBlank) then
    ((cs.dropWhile Text.isBlank).drop 4).dropWhile Text.isBlank
  else cs.dropWhile Text.isBlank

section Query

variable (hslash : '/' ∈ cs) (hq : ∀ c ∈ q, Parameter.isQueryChar c) (hne : q ≠ [])

include hslash

/-- A label that has no slash is found in a text with one or not at all. -/
theorem isPrefixOf_append {label : List Char} (hlabel : '/' ∉ label) :
    label.isPrefixOf (cs ++ q) = label.isPrefixOf cs := by
  rw [Bool.eq_iff_iff, List.isPrefixOf_iff_prefix, List.isPrefixOf_iff_prefix]
  constructor
  · intro h
    rcases List.prefix_or_prefix_of_prefix h (List.prefix_append cs q) with h | h
    · exact h
    · exact absurd (h.subset hslash) hlabel
  · exact fun h => h.trans (List.prefix_append cs q)

/-- A slash in front of the parameters is not taken off. -/
theorem slash_mem_opened : '/' ∈ opened cs := by
  have hmem : '/' ∈ cs.dropWhile Text.isBlank := Text.mem_dropWhile hslash (by decide)
  rw [opened]
  split
  · next hlabel =>
    obtain ⟨rest, hrest⟩ := List.isPrefixOf_iff_prefix.mp hlabel
    rw [← hrest] at hmem ⊢
    have hbehind : '/' ∈ rest := (List.mem_append.mp hmem).resolve_left (by simp)
    exact Text.mem_dropWhile hbehind (by decide)
  · exact hmem

/-- A scheme is looked for no further than a slash. -/
theorem hasScheme_append : hasScheme (cs ++ q) = hasScheme cs := by
  have hstop : 0 < (cs.dropWhile fun c => c ≠ ':' && c ≠ '/').length :=
    List.length_pos_of_mem (Text.mem_dropWhile hslash (by decide))
  have hsplit := congrArg List.length
    (List.takeWhile_append_dropWhile (p := fun c => c ≠ ':' && c ≠ '/') (l := cs))
  rw [List.length_append] at hsplit
  have hscheme : ((cs ++ q).takeWhile fun c => c ≠ ':' && c ≠ '/') =
      cs.takeWhile fun c => c ≠ ':' && c ≠ '/' := by
    rw [List.takeWhile_append, if_neg (by omega)]
  unfold hasScheme
  rw [hscheme]
  dsimp only
  rw [List.drop_append_of_le_length (by omega), List.head?_append_of_ne_nil]
  exact List.ne_nil_of_length_pos (by rw [List.length_drop]; omega)

omit hslash in
/-- What stands in front of a fragment is the same ahead of parameters, and is all there is if there
is no fragment. -/
theorem splitFragment_append (cs : List Char) (hq : ∀ c ∈ q, Parameter.isQueryChar c) :
    (splitFragment (cs ++ q)).1 = (splitFragment cs).1 ∨
      ((splitFragment cs).1 = cs ∧ (splitFragment (cs ++ q)).1 = cs ++ q) := by
  have hsign : ∀ c ∈ q.reverse, (decide (c ≠ '#')) = true := by
    intro c hc
    rw [decide_eq_true_eq]
    rintro rfl
    exact absurd (hq '#' (List.mem_reverse.mp hc)) (by decide)
  have hback : (cs ++ q).reverse.dropWhile (fun c => decide (c ≠ '#')) =
      cs.reverse.dropWhile fun c => decide (c ≠ '#') := by
    rw [List.reverse_append, List.dropWhile_append_of_pos hsign]
  rw [splitFragment, splitFragment, hback]
  split
  · exact .inr ⟨rfl, rfl⟩
  · exact .inl rfl

include hq hne

/-- What an address with parameters holds is what the text in front of them holds, and them. -/
theorem unwrapped_append {address : String} (haddress : address.toList = cs ++ q) :
    unwrapped address = opened cs ++ q := by
  have hvisible : ∀ c ∈ q, Text.isBlank c = false := fun c hc =>
    isBlank_eq_false (Parameter.isQueryChar_bounds (hq c hc))
  have hfront : '/' ∈ cs.dropWhile Text.isBlank := Text.mem_dropWhile hslash (by decide)
  have hbracket : ¬ ((cs.dropWhile Text.isBlank ++ q).head? = some '<' &&
      (cs.dropWhile Text.isBlank ++ q).getLast? = some '>') := by
    rw [List.getLast?_append_of_ne_nil _ hne]
    intro h
    rw [Bool.and_eq_true, decide_eq_true_eq, decide_eq_true_eq] at h
    have hlast : q.getLast? = some '>' := h.2
    exact absurd (hq '>' (List.mem_of_getLast? hlast)) (by decide)
  rw [unwrapped, haddress, Text.strip_append hslash (by decide) hvisible hne, if_neg hbracket,
    isPrefixOf_append hfront (by simp), opened]
  split
  · next hlabel =>
    obtain ⟨rest, hrest⟩ := List.isPrefixOf_iff_prefix.mp hlabel
    rw [← hrest] at hfront ⊢
    have hbehind : '/' ∈ rest := (List.mem_append.mp hfront).resolve_left (by simp)
    exact Text.strip_append hbehind (by decide) hvisible hne
  · rfl

/-- Whether a request can go to an address with parameters is decided by what stands in front of
them. -/
theorem target_append {address : String} (haddress : address.toList = cs ++ q) :
    (∃ full, target address = .ok full) ↔ hasScheme (splitFragment (opened cs)).1 := by
  have hscheme : hasScheme (splitFragment (opened cs ++ q)).1 =
      hasScheme (splitFragment (opened cs)).1 := by
    rcases splitFragment_append (opened cs) hq with hsame | ⟨hall, hmore⟩
    · rw [hsame]
    · rw [hall, hmore, hasScheme_append (slash_mem_opened hslash)]
  rw [← hscheme, target, unwrapped_append hslash hq hne haddress]
  dsimp only
  by_cases h : hasScheme (splitFragment (opened cs ++ q)).1
  · rw [if_pos h]
    exact iff_of_true ⟨_, rfl⟩ h
  · rw [if_neg h]
    refine iff_of_false ?_ h
    rintro ⟨full, hfull⟩
    cases hfull

end Query

end Request

end ContentGateway
