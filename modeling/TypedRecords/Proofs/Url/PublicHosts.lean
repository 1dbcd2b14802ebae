import TypedRecords.Proofs.Url.RootDots

/-!
The hosts of the URLs that count as public.  Most are what they are taken for, an address for
everywhere or a name of several labels; the others are names with an empty label, local addresses
with dots behind them, and what stands in brackets without being an address.
-/

set_option autoImplicit false

namespace TypedRecords.Url

open TypedRecords.Text

namespace Spelling

/-- What the host of a public URL is taken for: an address for everywhere, or a name of several
labels that have characters, of which the last is not for local use. -/
inductive IsPromised (s : Spelling) : Prop
  | address {address : Address} : Address.ofChars? s.hostname.toList = some address →
      address.isGlobal = true → s.IsPromised
  | name {front : List (List Char)} {last : List Char} : s.bracketed = false →
      Labelled s.hostname.toList front last → front ≠ [] → [] ∉ front →
      Case.lower (String.ofList last) ∉ localLabels → ¬ IsLocalAddress (joined front last) →
      s.IsPromised

/-- A host that is neither an address for everywhere nor a name, and may pass for one. -/
inductive IsStray (s : Spelling) : Prop
  | gap {front : List (List Char)} {last : List Char} : s.bracketed = false →
      Labelled s.hostname.toList front last → [] ∈ front → s.IsStray
  | dotted {front : List (List Char)} {last : List Char} : s.bracketed = false →
      Labelled s.hostname.toList front last → IsLocalAddress (joined front last) → s.IsStray
  | bracketed : s.bracketed = true → Address.ofChars? s.hostname.toList = none → s.IsStray

end Spelling

section Labels

variable {host last last' : List Char} {front front' : List (List Char)}

theorem Labelled.unique (labelled : Labelled host front last) (other : Labelled host front' last') :
    front = front' ∧ last = last' := by
  have same := labelled.pieces_stem.symm.trans other.pieces_stem
  obtain ⟨fronts, lasts⟩ := List.append_inj' same rfl
  exact ⟨fronts, List.singleton_inj.mp lasts⟩

private theorem isPublicName_single {host : String} {name : List Char} {dots : Nat}
    (whole : '.' ∉ name)
    (text : host.toList = name ++ List.replicate dots '.') : isPublicName host = false := by
  have bare : stem host.toList = name := by
    rw [text, stem_append_dots]
    cases name with
    | nil => rfl
    | cons c rest => exact stem_append_of_ne_nil (List.cons_ne_nil c rest) whole []
  have split : pieces '.' (stem host.toList) = [] ++ [name] := by
    rw [bare, pieces_of_not_mem whole, List.nil_append]
  rw [isPublicName_of_pieces split]
  rfl

end Labels

section Hosts

variable {url : String} {s : Spelling}

private theorem exists_writes_of_isPublic (isPublic : isPublic url = true) : ∃ s, Writes url s := by
  unfold Url.isPublic at isPublic
  split at isPublic
  · cases isPublic
  · rename_i parts found
    simp only [Bool.and_eq_true, bne_iff_ne, List.contains_iff_mem] at isPublic
    obtain ⟨⟨web, host⟩, -⟩ := isPublic
    have scheme : parts.scheme ≠ "" := by
      intro empty
      rw [empty] at web
      exact absurd web (by decide)
    obtain ⟨s, writes, -⟩ := exists_writes found scheme host
    exact ⟨s, writes⟩

private theorem colon_not_mem_hostname (writes : Writes url s) (plain : s.bracketed = false) :
    ':' ∉ s.hostname.toList :=
  colon_not_mem_lowerHost (colon_not_mem_host writes.proper plain)

private theorem isPublicName_of_isPublicHost {host : String} (colon : ':' ∉ host.toList)
    (isPublic : isPublicHost host = true) : isPublicName host = true := by
  rw [isPublicHost_of_no_colon colon] at isPublic
  cases found : short? host.toList with
  | none => rwa [found, Option.map_none, Option.getD_none] at isPublic
  | some n => exact isPublicName_of_short found

/-- Outside brackets a public host is what it is taken for unless a label is empty or dots are all
that tells it from a local address. -/
theorem isPromised_iff_of_plain (colon : ':' ∉ s.hostname.toList) (plain : s.bracketed = false)
    (isPublic : isPublicHost s.hostname = true) : s.IsPromised ↔ ¬ s.IsStray := by
  obtain ⟨front, last, labelled, several, other⟩ :=
    isPublicName_iff.mp (isPublicName_of_isPublicHost colon isPublic)
  constructor
  · rintro promised stray
    have whole : [] ∉ front ∧ ¬ IsLocalAddress (joined front last) := by
      cases promised with
      | address found isGlobal =>
        rw [ofChars?_of_no_colon colon] at found
        obtain ⟨n, short, rfl⟩ := Option.map_eq_some_iff.mp found
        obtain ⟨front', last', labelled', text, -, present, -⟩ := exists_labelled_of_short short
        obtain ⟨rfl, rfl⟩ := labelled.unique labelled'
        refine ⟨present, ?_⟩
        rintro ⟨m, same, isLocal⟩
        rw [text, short, Option.some.injEq] at same
        rw [same, isLocal] at isGlobal
        cases isGlobal
      | name _ labelled' _ present _ elsewhere =>
        obtain ⟨rfl, rfl⟩ := labelled.unique labelled'
        exact ⟨present, elsewhere⟩
    cases stray with
    | gap _ labelled' member =>
      obtain ⟨rfl, rfl⟩ := labelled.unique labelled'
      exact whole.1 member
    | dotted _ labelled' isLocal =>
      obtain ⟨rfl, rfl⟩ := labelled.unique labelled'
      exact whole.2 isLocal
    | bracketed bracketed =>
      rw [plain] at bracketed
      cases bracketed
  · intro settled
    have present : [] ∉ front := fun member => settled (.gap plain labelled member)
    have elsewhere : ¬ IsLocalAddress (joined front last) := fun isLocal =>
      settled (.dotted plain labelled isLocal)
    exact .name plain labelled several present other elsewhere

private theorem isPromised_iff_of_bracketed (bracketed : s.bracketed = true)
    (isPublic : isPublicHost s.hostname = true) : s.IsPromised ↔ ¬ s.IsStray := by
  have outside {P : Prop} (plain : s.bracketed = false) : P := by
    rw [bracketed] at plain
    cases plain
  cases found : Address.ofChars? s.hostname.toList with
  | none =>
    refine iff_of_false (fun promised => ?_) (not_not_intro (.bracketed bracketed found))
    cases promised with
    | address some =>
      rw [found] at some
      cases some
    | name plain => exact outside plain
  | some address =>
    rw [isPublicHost, found] at isPublic
    refine iff_of_true (.address found isPublic) fun stray => ?_
    cases stray with
    | gap plain => exact outside plain
    | dotted plain => exact outside plain
    | bracketed _ none =>
      rw [found] at none
      cases none

/-- A public URL is one of the web, its host is what it is taken for exactly when it is not a stray
one, and a single name among its hosts has dots before it. -/
theorem isPublic_promises (isPublic : isPublic url = true) :
    (∃ s, Writes url s) ∧ ∀ s, Writes url s →
      s.schemeName ∈ webSchemes ∧ (s.IsPromised ↔ ¬ s.IsStray) ∧
        ∀ (name : List Char) (before after : Nat), s.bracketed = false → '.' ∉ name →
          s.hostname.toList = List.replicate before '.' ++ (name ++ List.replicate after '.') →
          before ≠ 0 := by
  refine ⟨exists_writes_of_isPublic isPublic, fun s writes => ?_⟩
  rw [isPublic_of_writes writes, Bool.and_eq_true, List.contains_iff_mem] at isPublic
  obtain ⟨web, host⟩ := isPublic
  refine ⟨web, ?_, ?_⟩
  · cases bracketed : s.bracketed with
    | true => exact isPromised_iff_of_bracketed bracketed host
    | false =>
      exact isPromised_iff_of_plain (colon_not_mem_hostname writes bracketed) bracketed host
  · rintro name before after plain whole text rfl
    have several := isPublicName_of_isPublicHost (colon_not_mem_hostname writes plain) host
    rw [isPublicName_single whole text] at several
    cases several

/-- A single name behind a dot is stray, and so not what a public host is taken for. -/
theorem isPublic_promises_gap :
    isPublic "http://.printer/" = true ∧
      ∃ s, Writes "http://.printer/" s ∧ s.hostname = ".printer" ∧ ¬ s.IsPromised := by
  let s : Spelling := ⟨"http".toList, [], false, ".printer".toList, [], ['/']⟩
  have proper : s.IsProper :=
    ⟨by decide, by decide, by decide, leaves_cons (by decide) _, opensWith_nil '@', by decide,
      by decide, opensWith_nil ':', by decide⟩
  have writes : Writes "http://.printer/" s := ⟨by decide, proper, by decide, by decide⟩
  have host : s.hostname = ".printer" := by decide +kernel
  have labelled : Labelled s.hostname.toList [[]] "printer".toList :=
    ⟨by decide, by decide, 0, by rw [host]; decide⟩
  have stray : s.IsStray := .gap rfl labelled (List.mem_singleton.mpr rfl)
  have isPublic : Url.isPublic "http://.printer/" = true := by decide +kernel
  obtain ⟨-, settled, -⟩ := (isPublic_promises isPublic).2 s writes
  exact ⟨isPublic, s, writes, host, fun promised => settled.mp promised stray⟩

/-- The dot before a single name makes two labels of it, and a public URL. -/
theorem isPublic_single_name :
    isPublic "http://printer/" = false ∧ isPublic "http://.printer/" = true ∧
      labels ".printer" = ["", "printer"] := by
  decide +kernel

end Hosts

end TypedRecords.Url
