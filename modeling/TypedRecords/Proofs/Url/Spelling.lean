import TypedRecords.Proofs.Text.Marks
import TypedRecords.Url.Public

/-!
URLs with a host, part by part as they are written.  A URL of which a scheme and a host are split
off is written in such parts, and they are the scheme and the host among them.
-/

set_option autoImplicit false

namespace TypedRecords.Url

open TypedRecords.Text

def isInAuthority (c : Char) : Bool :=
  c != '/' && c != '?' && c != '#'

/-- The parts of a URL with a host, as they are written: the scheme, the user with its sign, the
host, what stands behind it in the authority, and the rest. -/
structure Spelling where
  scheme : List Char
  user : List Char
  bracketed : Bool
  host : List Char
  port : List Char
  rest : List Char

namespace Spelling

variable (s : Spelling)

def closing : Char :=
  if s.bracketed then ']' else ':'

def place : List Char :=
  if s.bracketed then '[' :: (s.host ++ s.port) else s.host ++ s.port

def authority : List Char :=
  s.user ++ s.place

def text : List Char :=
  s.scheme ++ ':' :: '/' :: '/' :: (s.authority ++ s.rest)

def schemeName : String :=
  Text.Case.lower (String.ofList s.scheme)

def hostname : String :=
  lowerHost s.host

/-- Every part has the characters that it may have, so that each ends where the next one begins. -/
structure IsProper : Prop where
  initial : s.scheme.head?.any isPlainLetter = true
  scheme : s.scheme.all isSchemeChar = true
  inside : s.authority.all isInAuthority = true
  rest : Leaves isInAuthority s.rest
  user : OpensWith '@' s.user.reverse
  place : '@' ∉ s.place
  host : s.closing ∉ s.host
  port : OpensWith s.closing s.port
  plain : s.bracketed = false → '[' ∉ s.place

end Spelling

structure Writes (url : String) (s : Spelling) : Prop where
  text : significant url = s.text
  proper : s.IsProper
  brackets : hasValidBrackets s.authority = true
  undisguised : (s.authority.any fun c => disguisedDelimiters.contains c.toNat) = false

section Split

variable {url : String} {s : Spelling} {cs : List Char}

private theorem colon_not_mem_scheme (scheme : cs.all isSchemeChar = true) : ':' ∉ cs := by
  intro member
  have colon := List.all_eq_true.mp scheme ':' member
  exact absurd colon (by decide)

private theorem splitScheme_text (proper : s.IsProper) :
    splitScheme s.text = (s.schemeName, '/' :: '/' :: (s.authority ++ s.rest)) := by
  have plain := colon_not_mem_scheme proper.scheme
  have opens := opensWith_cons ':' ('/' :: '/' :: (s.authority ++ s.rest))
  have front : before ':' s.text = s.scheme := before_append plain opens
  have back : behind ':' s.text = '/' :: '/' :: (s.authority ++ s.rest) := behind_append plain opens
  have shorter : s.scheme.length < s.text.length := by simp [Spelling.text]
  rw [splitScheme, front, back]
  exact if_pos ⟨shorter, proper.initial, proper.scheme⟩

private theorem authority_text (proper : s.IsProper) :
    authority ('/' :: '/' :: (s.authority ++ s.rest)) = s.authority :=
  takeWhile_append_of_leaves (List.all_eq_true.mp proper.inside) proper.rest

theorem behindLast_authority (proper : s.IsProper) : behindLast '@' s.authority = s.place :=
  behindLast_append proper.place proper.user

private theorem contains_place_iff (proper : s.IsProper) : s.place.contains '[' = s.bracketed := by
  cases bracketed : s.bracketed with
  | true => simp [Spelling.place, bracketed]
  | false => simpa using proper.plain bracketed

private theorem writtenHost_authority (proper : s.IsProper) : writtenHost s.authority = s.host := by
  have host := proper.host
  have port := proper.port
  rw [writtenHost, behindLast_authority proper, contains_place_iff proper]
  unfold Spelling.closing at host port
  unfold Spelling.place
  cases bracketed : s.bracketed with
  | true =>
    rw [bracketed] at host port
    have inside : behind '[' ('[' :: (s.host ++ s.port)) = s.host ++ s.port :=
      behind_append List.not_mem_nil (opensWith_cons '[' _)
    simp only [if_true, inside]
    exact before_append host port
  | false =>
    rw [bracketed] at host port
    exact before_append host port

theorem split?_of_writes (writes : Writes url s) :
    split? url = some ⟨s.schemeName, s.hostname⟩ := by
  have proper := writes.proper
  rw [split?, writes.text, splitScheme_text proper]
  simp only [authority_text proper, writes.brackets, writes.undisguised,
    writtenHost_authority proper]
  simp [Spelling.hostname]

private theorem splitScheme_cases (cs : List Char) :
    splitScheme cs = ("", cs) ∨
      ∃ scheme rest, cs = scheme ++ ':' :: rest ∧ scheme.head?.any isPlainLetter = true ∧
        scheme.all isSchemeChar = true ∧
        splitScheme cs = (Text.Case.lower (String.ofList scheme), rest) := by
  by_cases scheme : (before ':' cs).length < cs.length ∧
      (before ':' cs).head?.any isPlainLetter = true ∧ (before ':' cs).all isSchemeChar = true
  · obtain ⟨shorter, initial, all⟩ := scheme
    have colon : ':' ∈ cs := by
      refine Classical.byContradiction fun plain => ?_
      rw [before_of_not_mem plain] at shorter
      exact Nat.lt_irrefl _ shorter
    exact Or.inr ⟨before ':' cs, behind ':' cs, eq_before_behind colon, initial, all,
      if_pos ⟨shorter, initial, all⟩⟩
  · exact Or.inl (if_neg scheme)

private theorem authority_cases (cs : List Char) :
    authority cs = [] ∨
      ∃ inside rest, cs = '/' :: '/' :: (inside ++ rest) ∧ authority cs = inside ∧
        inside.all isInAuthority = true ∧ Leaves isInAuthority rest := by
  unfold authority
  split
  · rename_i rest
    refine Or.inr ⟨rest.takeWhile isInAuthority, rest.dropWhile isInAuthority, ?_, rfl,
      List.all_takeWhile, leaves_dropWhile _ rest⟩
    rw [List.takeWhile_append_dropWhile]
  · exact Or.inl rfl

private theorem mem_of_mem_behindLast {mark c : Char} (member : c ∈ behindLast mark cs) :
    c ∈ cs := by
  obtain ⟨front, parts, -⟩ := exists_behindLast mark cs
  exact parts ▸ List.mem_append_right front member

private theorem before_bracket (valid : hasValidBrackets cs = true)
    (bracket : '[' ∈ behindLast '@' cs) : before '[' (behindLast '@' cs) = [] := by
  have here : (behindLast '@' cs).contains '[' = true := by simpa using bracket
  have there : cs.contains '[' = true := by simpa using mem_of_mem_behindLast bracket
  rw [hasValidBrackets] at valid
  simp only [here, there, if_true, Bool.not_true, Bool.false_eq_true, if_false] at valid
  split at valid
  · cases valid
  · simp only [Bool.and_eq_true] at valid
    exact List.isEmpty_iff.mp valid.1.1

/-- Brackets before a host that is in none must be in pairs, and the host such as they may hold. -/
theorem hasValidBrackets_plain_iff (plain : '[' ∉ behindLast '@' cs) :
    hasValidBrackets cs = true ↔
      cs.contains '[' = cs.contains ']' ∧
        ('[' ∈ cs → isBracketed (before ':' (behindLast '@' cs)) = true) := by
  have here : (behindLast '@' cs).contains '[' = false := by simpa using plain
  rw [hasValidBrackets]
  cases opening : cs.contains '[' <;> cases closing : cs.contains ']' <;> simp_all

private theorem exists_authority (valid : hasValidBrackets cs = true) :
    ∃ (user host port : List Char) (bracketed : Bool),
      ∀ scheme rest, let s : Spelling := ⟨scheme, user, bracketed, host, port, rest⟩
        s.authority = cs ∧ OpensWith '@' s.user.reverse ∧ '@' ∉ s.place ∧ s.closing ∉ s.host ∧
          OpensWith s.closing s.port ∧ (s.bracketed = false → '[' ∉ s.place) := by
  obtain ⟨user, parts, ends, single⟩ := exists_behindLast '@' cs
  by_cases bracket : '[' ∈ behindLast '@' cs
  · have opened := eq_before_behind bracket
    rw [before_bracket valid bracket, List.nil_append] at opened
    generalize behind '[' (behindLast '@' cs) = inside at opened
    refine ⟨user, before ']' inside, inside.dropWhile fun c => c ≠ ']', true, fun scheme rest => ?_⟩
    have whole : '[' :: (before ']' inside ++ inside.dropWhile fun c => c ≠ ']') =
        behindLast '@' cs := by
      rw [before_append_dropWhile, opened]
    refine ⟨?_, ends, ?_, not_mem_before ']' inside, opensWith_dropWhile ']' inside, nofun⟩
    · exact (congrArg (user ++ ·) whole).trans parts.symm
    · exact fun member => single (whole ▸ member)
  · refine ⟨user, before ':' (behindLast '@' cs),
      (behindLast '@' cs).dropWhile fun c => c ≠ ':', false,
      fun scheme rest => ?_⟩
    have whole := before_append_dropWhile ':' (behindLast '@' cs)
    refine ⟨?_, ends, ?_, not_mem_before ':' _, opensWith_dropWhile ':' _, fun _ => ?_⟩
    · exact (congrArg (user ++ ·) whole).trans parts.symm
    · exact fun member => single (whole ▸ member)
    · exact fun member => bracket (whole ▸ member)

theorem exists_writes {parts : Parts} (found : split? url = some parts)
    (scheme : parts.scheme ≠ "") (host : parts.host ≠ "") :
    ∃ s : Spelling, Writes url s ∧ parts = ⟨s.schemeName, s.hostname⟩ := by
  unfold split? at found
  rcases splitScheme_cases (significant url) with none | ⟨name, behind, text, initial, all, cut⟩
  · rw [none] at found
    dsimp only at found
    split at found
    · obtain rfl := Option.some.inj found
      exact absurd rfl scheme
    · cases found
  · rw [cut] at found
    dsimp only at found
    split at found
    · rename_i valid
      obtain ⟨brackets, undisguised⟩ := valid
      obtain rfl := Option.some.inj found
      rcases authority_cases behind with none | ⟨inside, rest, slashes, same, within, leaves⟩
      · rw [none] at host
        exact absurd rfl host
      · rw [same] at brackets undisguised
        obtain ⟨user, host, port, bracketed, spelled⟩ := exists_authority brackets
        obtain ⟨rfl, ends, single, closed, opens, plain⟩ := spelled name rest
        let s : Spelling := ⟨name, user, bracketed, host, port, rest⟩
        have proper : s.IsProper :=
          ⟨initial, all, within, leaves, ends, single, closed, opens, plain⟩
        refine ⟨s, ⟨text.trans ?_, proper, brackets, Bool.not_eq_true' _ ▸ undisguised⟩, ?_⟩
        · rw [slashes]
          rfl
        · rw [same, writtenHost_authority proper]
          rfl
    · cases found

end Split

end TypedRecords.Url
