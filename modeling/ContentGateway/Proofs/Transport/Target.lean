import Mathlib
import ContentGateway.Proofs.Address.Parameters
import ContentGateway.Proofs.Text.Basic
import ContentGateway.Transport.Request

/-!
# The address that a request goes to

A request to a web address that ends in encoded parameters goes to the address as it is: nothing is
taken off its ends, and its scheme is found in front of any fragment.
-/

namespace ContentGateway

/-- Whether a text begins with one of the two schemes of the web. -/
def IsWeb (cs : List Char) : Prop :=
  ['h', 't', 't', 'p', ':'] <+: cs ∨ ['h', 't', 't', 'p', 's', ':'] <+: cs

/-- An address of the web begins with an `h`. -/
theorem IsWeb.head {cs : List Char} (h : IsWeb cs) : cs.head? = some 'h' := by
  rcases h with ⟨rest, rfl⟩ | ⟨rest, rfl⟩ <;> rfl

/-- An address of the web has a scheme. -/
theorem IsWeb.hasScheme {cs : List Char} (h : IsWeb cs) : Request.hasScheme cs := by
  rcases h with ⟨rest, rfl⟩ | ⟨rest, rfl⟩ <;> simp [Request.hasScheme]

/-- What stands behind a web address is not part of its scheme. -/
theorem IsWeb.append {cs : List Char} (h : IsWeb cs) (ds : List Char) : IsWeb (cs ++ ds) :=
  h.imp (fun h => h.trans (List.prefix_append _ _)) fun h => h.trans (List.prefix_append _ _)

/-- A text that is cut at a character of no scheme still has its scheme. -/
theorem IsWeb.front {front back : List Char} {c : Char} (h : IsWeb (front ++ c :: back))
    (hc : c ∉ ['h', 't', 't', 'p', 's', ':']) : IsWeb front := by
  have hcut : ∀ scheme : List Char, c ∉ scheme → scheme <+: front ++ c :: back →
      scheme <+: front := by
    intro scheme hscheme hweb
    rcases List.prefix_or_prefix_of_prefix hweb (List.prefix_append front _) with h | ⟨rest, rfl⟩
    · exact h
    · cases rest with
      | nil => rw [List.append_nil]
      | cons d rest =>
        obtain ⟨rfl, -⟩ := List.cons_prefix_cons.mp ((List.prefix_append_right_inj front).mp hweb)
        exact absurd (List.mem_append_right _ List.mem_cons_self) hscheme
  simp only [List.mem_cons, List.not_mem_nil, or_false, not_or] at hc
  exact h.imp (hcut _ (by simp [hc])) (hcut _ (by simp [hc]))

/-- A path that begins with a slash is no web address. -/
theorem Base.isWhole_eq_false {path : String} (h : path.toList.head? = some '/') :
    isWhole path = false := by
  obtain ⟨rest, hrest⟩ := List.head?_eq_some_iff.mp h
  rw [isWhole, hrest]
  simp [List.isPrefixOf]

/-- A base is a text less some slashes at its end. -/
theorem Base.toList_ofText (s : String) : ∃ slashes : List Char,
    s.toList = (Base.ofText s).text.toList ++ slashes ∧ ∀ c ∈ slashes, c = '/' := by
  refine ⟨s.toList.rtakeWhile (· = '/'), ?_, fun c hc => ?_⟩
  · rw [Base.ofText, String.toList_ofList]
    exact List.rdropWhile_append_rtakeWhile.symm
  · simpa using List.mem_rtakeWhile_imp hc

/-- The base of a web address is one. -/
theorem Base.isWeb_ofText {s : String} (h : Base.isWhole s) :
    IsWeb (Base.ofText s).text.toList := by
  have hweb : IsWeb s.toList := by
    simp only [Base.isWhole, Bool.or_eq_true, List.isPrefixOf_iff_prefix] at h
    refine h.imp (List.IsPrefix.trans ?_) (List.IsPrefix.trans ?_)
    · exact ⟨['/', '/'], by simp⟩
    · exact ⟨['/', '/'], by simp⟩
  obtain ⟨slashes, hslashes, hall⟩ := Base.toList_ofText s
  rw [hslashes] at hweb
  cases slashes with
  | nil => rwa [List.append_nil] at hweb
  | cons c slashes =>
    refine hweb.front ?_
    rw [hall c List.mem_cons_self]
    decide

namespace Parameter

/-- A character of encoded parameters is a visible one of ASCII. -/
theorem isQueryChar_bounds {c : Char} (h : isQueryChar c) : 0x21 ≤ c.toNat ∧ c.toNat < 0x7f := by
  simp only [isQueryChar, Text.isUnreserved, Bool.or_eq_true, Bool.and_eq_true,
    decide_eq_true_eq] at h
  rcases h with (((((((((h | h) | h) | rfl) | rfl) | rfl) | rfl) | rfl) | rfl) | rfl) | rfl
  · exact ⟨le_trans (by decide) h.1, lt_of_le_of_lt h.2 (by decide)⟩
  · exact ⟨le_trans (by decide) h.1, lt_of_le_of_lt h.2 (by decide)⟩
  · exact ⟨le_trans (by decide) h.1, lt_of_le_of_lt h.2 (by decide)⟩
  all_goals decide

end Parameter

namespace Request

/-- The last number sign begins the fragment, and what stands before it is the front. -/
theorem splitFragment_cases (cs : List Char) :
    (splitFragment cs = (cs, none)) ∨ ∃ front fragment,
      splitFragment cs = (front, some fragment) ∧ cs = front ++ '#' :: fragment := by
  have hsplit := List.takeWhile_append_dropWhile (p := fun c => decide (c ≠ '#')) (l := cs.reverse)
  rw [splitFragment]
  split
  · exact .inl rfl
  · next c front hdrop =>
    refine .inr ⟨front.reverse, _, rfl, ?_⟩
    have hc : c = '#' := by
      have hhead := List.head?_dropWhile_not (fun c => decide (c ≠ '#')) cs.reverse
      rw [hdrop] at hhead
      simpa using hhead
    have hreverse := congrArg List.reverse hsplit
    rw [hdrop, hc, List.reverse_append, List.reverse_cons, List.reverse_reverse,
      List.append_assoc] at hreverse
    exact hreverse.symm

/-- A web address is its own target if no blank and no number sign ends it. -/
theorem target_of_isWeb {address : String} (hweb : IsWeb address.toList)
    (hlast : ∀ c ∈ address.toList.getLast?, Text.isBlank c = false ∧ c ≠ '#') :
    target address = .ok address := by
  -- no blank stands at either end, and no wrapping begins with the letter of the scheme
  have hstrip : Text.strip address.toList = address.toList := by
    refine Text.trimBy_eq_self (fun c hc => ?_) fun c hc => (hlast c hc).1
    rw [hweb.head] at hc
    rw [← Option.some.inj hc]
    rfl
  have hunwrapped : unwrapped address = address.toList := by
    have hlabel : ¬ "URL:".toList.isPrefixOf address.toList := by
      obtain ⟨rest, hrest⟩ := List.head?_eq_some_iff.mp hweb.head
      rw [hrest, List.isPrefixOf_iff_prefix]
      simp
    have hbracket : ¬ (address.toList.head? = some '<' && address.toList.getLast? = some '>') := by
      simp [hweb.head]
    rw [unwrapped, hstrip, if_neg hbracket, if_neg hlabel]
  rw [target, hunwrapped]
  dsimp only
  rcases splitFragment_cases address.toList with hsplit | ⟨front, fragment, hsplit, haddress⟩
  · rw [hsplit]
    dsimp only
    rw [if_pos hweb.hasScheme, if_neg nofun, String.ofList_toList]
  · have hfront : IsWeb front := by
      rw [haddress] at hweb
      exact hweb.front (by decide)
    -- an empty fragment would leave the number sign at the end
    have hfragment : fragment ≠ [] := by
      rintro rfl
      exact (hlast '#' (by rw [haddress, List.getLast?_concat]; rfl)).2 rfl
    rw [hsplit]
    dsimp only
    rw [if_pos hfront.hasScheme, if_neg (by simpa using hfragment), String.ofList_toList]

/-- A visible character of ASCII is not blank. -/
theorem isBlank_eq_false {c : Char} (h : 0x21 ≤ c.toNat ∧ c.toNat < 0x7f) :
    Text.isBlank c = false := by
  obtain ⟨hlow, hhigh⟩ := h
  simp only [Text.isBlank, Bool.or_eq_false_iff, Bool.and_eq_false_iff, decide_eq_false_iff_not,
    beq_eq_false_iff_ne]
  omega

/-- A web address that ends in a character of encoded parameters is its own target. -/
theorem target_web {address : String} (hweb : IsWeb address.toList)
    (hlast : ∀ c ∈ address.toList.getLast?, Parameter.isQueryChar c) :
    target address = .ok address := by
  refine target_of_isWeb hweb fun c hc => ⟨isBlank_eq_false ?_, ?_⟩
  · exact Parameter.isQueryChar_bounds (hlast c hc)
  · rintro rfl
    exact absurd (hlast '#' hc) (by decide)

end Request

end ContentGateway
