import TypedRecords.Proofs.Url.Addresses
import TypedRecords.Proofs.Url.Spelling

/-!
Dots at the end of a host.  They change nothing about a name, nor about an address for everywhere;
an address that is not for everywhere counts as a public name with them.
-/

set_option autoImplicit false

namespace TypedRecords.Url

open TypedRecords.Text

def Spelling.dotted (s : Spelling) (dots : Nat) : Spelling :=
  { s with host := s.host ++ List.replicate dots '.' }

section Host

variable {host other : String} {cs : List Char} {dots : Nat}

private theorem mem_append_dots {c : Char} (member : c ∈ cs ++ List.replicate dots '.') :
    c ∈ cs ∨ c = '.' :=
  (List.mem_append.mp member).imp_right List.eq_of_mem_replicate

private theorem isPublicName_of_stem (same : stem host.toList = stem other.toList) :
    isPublicName host = isPublicName other := by
  unfold isPublicName
  rw [labels_eq, labels_eq, same]

theorem isPublicHost_of_no_colon (plain : ':' ∉ host.toList) :
    isPublicHost host =
      ((short? host.toList).map fun n => (Address.short n).isGlobal).getD (isPublicName host) := by
  rw [isPublicHost, ofChars?_of_no_colon plain]
  cases short? host.toList <;> rfl

private theorem isPublicHost_append_dots (plain : ':' ∉ host.toList)
    (dotted : other.toList = host.toList ++ List.replicate (dots + 1) '.') :
    isPublicHost other = isPublicName host := by
  have plain' : ':' ∉ other.toList := by
    rw [dotted]
    intro member
    exact (mem_append_dots member).elim plain (by decide)
  have same : stem other.toList = stem host.toList := by rw [dotted, stem_append_dots]
  rw [isPublicHost_of_no_colon plain', dotted, short?_append_dot]
  exact isPublicName_of_stem same

private theorem isBracketed_append_dots (plain : ':' ∉ cs) (bracketed : isBracketed cs = true) :
    isBracketed (cs ++ List.replicate dots '.') = true := by
  unfold isBracketed at bracketed
  split at bracketed
  · rename_i rest
    simp only [Bool.and_eq_true, Bool.not_eq_true', List.isEmpty_eq_false_iff] at bracketed
    obtain ⟨⟨⟨version, digits⟩, address⟩, line⟩ := bracketed
    have dot : '.' ∈ rest := mem_of_behind_ne_nil address
    obtain ⟨front, back⟩ := before_behind_append dot (List.replicate dots '.')
    have lines : '\n' ∉ behind '.' rest ++ List.replicate dots '.' := by
      intro member
      exact (mem_append_dots member).elim (by simpa using line) (by decide)
    simp only [isBracketed, List.cons_append, front, back, digits]
    simp [version, address, lines]
  · rw [ofChars?_of_no_colon plain] at bracketed
    split at bracketed
    · rename_i n found
      obtain ⟨_, _, same⟩ := Option.map_eq_some_iff.mp found
      cases same
    · cases bracketed

end Host

section Url

variable {url dotted : String} {s : Spelling} {dots : Nat}

theorem isPublic_of_writes (writes : Writes url s) :
    isPublic url = (webSchemes.contains s.schemeName && isPublicHost s.hostname) := by
  unfold isPublic
  rw [split?_of_writes writes]
  by_cases empty : s.hostname = ""
  · have nowhere : isPublicHost "" = false := by decide
    simp [empty, nowhere]
  · have host : (s.hostname != "") = true := bne_iff_ne.mpr empty
    simp [host]

private theorem toList_hostname_dotted (s : Spelling) (dots : Nat) :
    (s.dotted dots).hostname.toList = s.hostname.toList ++ List.replicate dots '.' :=
  toList_lowerHost_append_dots s.host dots

private theorem mem_authority_dotted (plain : s.bracketed = false) {c : Char} (other : c ≠ '.') :
    c ∈ (s.dotted dots).authority ↔ c ∈ s.authority := by
  simp [Spelling.dotted, Spelling.authority, Spelling.place, plain, List.mem_replicate, other]

private theorem mem_authority_or_dot (plain : s.bracketed = false) {c : Char}
    (member : c ∈ (s.dotted dots).authority) : c ∈ s.authority ∨ c = '.' :=
  or_iff_not_imp_right.mpr fun other => (mem_authority_dotted plain other).mp member

private theorem mem_place_dotted (plain : s.bracketed = false) {c : Char} (other : c ≠ '.') :
    c ∈ (s.dotted dots).place ↔ c ∈ s.place := by
  simp [Spelling.dotted, Spelling.place, plain, List.mem_replicate, other]

private theorem proper_dotted (proper : s.IsProper) (plain : s.bracketed = false) :
    (s.dotted dots).IsProper where
  initial := proper.initial
  scheme := proper.scheme
  inside := List.all_eq_true.mpr fun c member => by
    rcases mem_authority_or_dot plain member with own | rfl
    · exact List.all_eq_true.mp proper.inside c own
    · decide
  rest := proper.rest
  user := proper.user
  place := mt (mem_place_dotted plain (by decide)).mp proper.place
  host := fun member => by
    rcases mem_append_dots member with own | dot
    · exact proper.host own
    · have colon : s.closing = ':' := if_neg (by simp [plain])
      exact absurd (colon.symm.trans dot) (by decide)
  port := proper.port
  plain := fun _ => mt (mem_place_dotted plain (by decide)).mp (proper.plain plain)

theorem colon_not_mem_host (proper : s.IsProper) (plain : s.bracketed = false) : ':' ∉ s.host := by
  have closed := proper.host
  rwa [Spelling.closing, if_neg (by simp [plain])] at closed

private theorem hasValidBrackets_iff_of_plain (proper : s.IsProper) (plain : s.bracketed = false) :
    hasValidBrackets s.authority = true ↔
      ('[' ∈ s.authority ↔ ']' ∈ s.authority) ∧
        ('[' ∈ s.authority → isBracketed s.host = true) := by
  have place := behindLast_authority proper
  have host : before ':' s.place = s.host := by
    rw [Spelling.place, if_neg (by simp [plain])]
    have port := proper.port
    rw [Spelling.closing, if_neg (by simp [plain])] at port
    exact before_append (colon_not_mem_host proper plain) port
  rw [hasValidBrackets_plain_iff (place ▸ proper.plain plain), place, host, Bool.eq_iff_iff,
    List.contains_iff_mem, List.contains_iff_mem]

private theorem hasValidBrackets_dotted (proper : s.IsProper) (plain : s.bracketed = false)
    (valid : hasValidBrackets s.authority = true) :
    hasValidBrackets (s.dotted dots).authority = true := by
  obtain ⟨pairs, bracketed⟩ := (hasValidBrackets_iff_of_plain proper plain).mp valid
  refine (hasValidBrackets_iff_of_plain (proper_dotted proper plain) plain).mpr ?_
  rw [mem_authority_dotted plain (by decide), mem_authority_dotted plain (by decide)]
  have colon := colon_not_mem_host proper plain
  exact ⟨pairs, fun member => isBracketed_append_dots colon (bracketed member)⟩

private theorem writes_dotted (writes : Writes url s) (plain : s.bracketed = false)
    (respelled : significant dotted = (s.dotted dots).text) : Writes dotted (s.dotted dots) where
  text := respelled
  proper := proper_dotted writes.proper plain
  brackets := hasValidBrackets_dotted writes.proper plain writes.brackets
  undisguised := List.any_eq_false.mpr fun c member => by
    rcases mem_authority_or_dot plain member with own | rfl
    · exact List.any_eq_false.mp writes.undisguised c own
    · decide

/-- Dots behind the host change the answer exactly for an address that is not for everywhere: it is
not public, and with the dots it is. -/
theorem isPublic_dotted (writes : Writes url s) (plain : s.bracketed = false)
    (scheme : s.schemeName ∈ webSchemes)
    (respelled : significant dotted = (s.dotted (dots + 1)).text) :
    (isPublic dotted = isPublic url ↔ ¬ IsLocalAddress s.hostname.toList) ∧
      (IsLocalAddress s.hostname.toList → isPublic url = false ∧ isPublic dotted = true) := by
  have colon : ':' ∉ s.hostname.toList :=
    colon_not_mem_lowerHost (colon_not_mem_host writes.proper plain)
  have before : isPublic url = isPublicHost s.hostname := by
    rw [isPublic_of_writes writes, List.contains_iff_mem.mpr scheme, Bool.true_and]
  have after : isPublic dotted = isPublicName s.hostname := by
    have same : webSchemes.contains (s.dotted (dots + 1)).schemeName = true :=
      List.contains_iff_mem.mpr scheme
    rw [isPublic_of_writes (writes_dotted writes plain respelled), same, Bool.true_and]
    exact isPublicHost_append_dots colon (toList_hostname_dotted s (dots + 1))
  rw [isPublicHost_of_no_colon colon] at before
  cases found : short? s.hostname.toList with
  | none =>
    have name : ¬ IsLocalAddress s.hostname.toList := by
      rintro ⟨n, address, -⟩
      rw [found] at address
      cases address
    rw [found, Option.map_none, Option.getD_none] at before
    exact ⟨⟨fun _ => name, fun _ => after.trans before.symm⟩, fun address => absurd address name⟩
  | some n =>
    have isLocal : IsLocalAddress s.hostname.toList ↔ (Address.short n).isGlobal = false := by
      simp [IsLocalAddress, found]
    rw [isPublicName_of_short found] at after
    rw [found, Option.map_some, Option.getD_some] at before
    rw [isLocal, before, after]
    cases (Address.short n).isGlobal <;> simp

/-- The name of a router with two dots behind it, within a whole URL. -/
theorem isPublic_dotted_router :
    ∃ s, Writes "http://u@Router.example:80/x" s ∧ s.bracketed = false ∧ s.schemeName ∈ webSchemes ∧
      significant "http://u@Router.example..:80/x" = (s.dotted 2).text ∧
      isPublic "http://u@Router.example..:80/x" = isPublic "http://u@Router.example:80/x" := by
  let s : Spelling := ⟨['h', 't', 't', 'p'], ['u', '@'], false, "Router.example".toList,
    [':', '8', '0'], ['/', 'x']⟩
  have proper : s.IsProper :=
    ⟨by decide, by decide, by decide, leaves_cons (by decide) _, opensWith_cons '@' _, by decide,
      by decide, opensWith_cons ':' _, by decide⟩
  have writes : Writes "http://u@Router.example:80/x" s :=
    ⟨by decide, proper, by decide, by decide⟩
  have scheme : s.schemeName ∈ webSchemes := by decide +kernel
  have respelled : significant "http://u@Router.example..:80/x" = (s.dotted 2).text := by decide
  have name : short? s.hostname.toList = none := by decide +kernel
  have elsewhere : ¬ IsLocalAddress s.hostname.toList := by
    rintro ⟨n, address, -⟩
    rw [name] at address
    cases address
  exact ⟨s, writes, rfl, scheme, respelled,
    (isPublic_dotted writes rfl scheme respelled).1.mpr elsewhere⟩

/-- The address of the machine itself counts as public with a dot behind it. -/
theorem isPublic_dotted_loopback :
    isPublic "http://127.0.0.1/" = false ∧ isPublic "http://127.0.0.1./" = true := by
  decide +kernel

end Url

end TypedRecords.Url
