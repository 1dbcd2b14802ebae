import TypedRecords.Proofs.Text.Runs
import TypedRecords.Template.Token

/-!
The tokens of a template, described without the scanner: what the first token of a text is and what
is left behind it, and so on up to the end.  Every text has exactly one division of this kind, and
the scanner finds it.
-/

set_option autoImplicit false

namespace TypedRecords.Template

open TypedRecords.Text (isWordChar Leaves leaves_cons leaves_dropWhile takeWhile_append_of_leaves)

/-- At least one character that names are written with, and no other. -/
structure IsName (cs : List Char) : Prop where
  nonempty : cs ≠ []
  chars : ∀ c ∈ cs, isWordChar c = true

/-- What gives a dollar sign in front of it a meaning: another dollar sign, a name between braces,
or a name. -/
inductive Completes : List Char → Prop
  | dollar (rest : List Char) : Completes ('$' :: rest)
  | braced {name : List Char} (named : IsName name) (rest : List Char) :
      Completes ('\x7b' :: (name ++ '\x7d' :: rest))
  | bare {name : List Char} (named : IsName name) (rest : List Char) : Completes (name ++ rest)

/-- The first token of a text and what is left behind it.  A name without braces goes as far as it
can; a dollar sign without a meaning stands for itself. -/
inductive Leads : List Char → Token → List Char → Prop
  | dollar (rest : List Char) : Leads ('$' :: '$' :: rest) .dollar rest
  | braced {name : List Char} (named : IsName name) (rest : List Char) :
      Leads ('$' :: '\x7b' :: (name ++ '\x7d' :: rest))
        (.placeholder (String.ofList name) true) rest
  | bare {name rest : List Char} (named : IsName name) (ends : Leaves isWordChar rest) :
      Leads ('$' :: (name ++ rest)) (.placeholder (String.ofList name) false) rest
  | lone {rest : List Char} (alone : ¬ Completes rest) : Leads ('$' :: rest) (.char '$') rest
  | plain {c : Char} (other : c ≠ '$') (rest : List Char) : Leads (c :: rest) (.char c) rest

inductive Divides : List Char → List Token → Prop
  | nil : Divides [] []
  | cons {cs rest : List Char} {token : Token} {tokens : List Token} :
      Leads cs token rest → Divides rest tokens → Divides cs (token :: tokens)

section First

@[simp] private theorem isWordChar_dollar : isWordChar '$' = false := by
  decide

@[simp] private theorem isWordChar_opening : isWordChar '\x7b' = false := by
  decide

@[simp] private theorem isWordChar_closing : isWordChar '\x7d' = false := by
  decide

private theorem isName_takeWhile {cs : List Char} (found : cs.takeWhile isWordChar ≠ []) :
    IsName (cs.takeWhile isWordChar) :=
  ⟨found, List.all_eq_true.mp List.all_takeWhile⟩

theorem IsName.head {c : Char} {name : List Char} (named : IsName (c :: name)) :
    isWordChar c = true :=
  named.chars c List.mem_cons_self

private theorem IsName.takeWhile_append {name rest : List Char} (named : IsName name)
    (ends : Leaves isWordChar rest) : (name ++ rest).takeWhile isWordChar = name :=
  takeWhile_append_of_leaves named.chars ends

private theorem Leads.source_append {cs rest : List Char} {token : Token}
    (leads : Leads cs token rest) :
    cs = token.source ++ rest := by
  cases leads with
  | dollar rest => rfl
  | braced named rest => simp [Token.source]
  | bare named ends => simp [Token.source]
  | lone alone => rfl
  | plain other rest => rfl

private theorem source_ne_nil (token : Token) : token.source ≠ [] := by
  rcases token with _ | ⟨name, _ | _⟩ | c <;> simp [Token.source]

private theorem Leads.rest_eq {c : Char} {cs rest : List Char} {token : Token}
    (leads : Leads (c :: cs) token rest) : rest = cs.drop (token.source.length - 1) := by
  have written := leads.source_append
  obtain ⟨first, more, source⟩ := List.exists_cons_of_ne_nil (source_ne_nil token)
  rw [source] at written ⊢
  obtain ⟨-, rfl⟩ := List.cons.inj written
  simp

private theorem tokenBehindDollar_braced {name : List Char} (named : IsName name)
    (rest : List Char) :
    tokenBehindDollar ('\x7b' :: (name ++ '\x7d' :: rest)) =
      .placeholder (String.ofList name) true := by
  have run : (name ++ '\x7d' :: rest).takeWhile isWordChar = name :=
    named.takeWhile_append (leaves_cons isWordChar_closing rest)
  have present : name.isEmpty = false := by simpa using named.nonempty
  simp [tokenBehindDollar, run, present]

private theorem tokenBehindDollar_bare {name rest : List Char} (named : IsName name)
    (ends : Leaves isWordChar rest) :
    tokenBehindDollar (name ++ rest) = .placeholder (String.ofList name) false := by
  have run := named.takeWhile_append ends
  have present : name.isEmpty = false := by simpa using named.nonempty
  unfold tokenBehindDollar
  split
  · rename_i same
    cases name with
    | nil => exact absurd rfl named.nonempty
    | cons c name =>
      obtain ⟨rfl, -⟩ := List.cons.inj same
      exact absurd named.head (by simp)
  · rename_i same
    cases name with
    | nil => exact absurd rfl named.nonempty
    | cons c name =>
      obtain ⟨rfl, -⟩ := List.cons.inj same
      exact absurd named.head (by simp)
  · simp [run, present]

private theorem tokenBehindDollar_alone {cs : List Char} (alone : ¬ Completes cs) :
    tokenBehindDollar cs = .char '$' := by
  unfold tokenBehindDollar
  split
  · exact absurd (.dollar _) alone
  · rename_i rest
    refine if_neg fun found => alone ?_
    obtain ⟨present, closed⟩ := found
    have run : IsName (rest.takeWhile isWordChar) := isName_takeWhile (by simpa using present)
    obtain ⟨more, behind⟩ := List.head?_eq_some_iff.mp closed
    have whole : rest.takeWhile isWordChar ++ '\x7d' :: more = rest := by
      rw [← behind]
      exact List.prefix_iff_eq_append.mp (List.takeWhile_prefix isWordChar)
    exact whole ▸ .braced run more
  · refine if_pos (Decidable.byContradiction fun present => alone ?_)
    have run : IsName (cs.takeWhile isWordChar) := isName_takeWhile (by simpa using present)
    have whole : cs.takeWhile isWordChar ++ cs.dropWhile isWordChar = cs :=
      List.takeWhile_append_dropWhile
    exact whole ▸ .bare run (cs.dropWhile isWordChar)

private theorem tokenAt_of_leads {c : Char} {cs rest : List Char} {token : Token}
    (leads : Leads (c :: cs) token rest) : tokenAt c cs = token := by
  unfold tokenAt
  cases leads with
  | dollar rest => rfl
  | braced named rest => exact tokenBehindDollar_braced named rest
  | bare named ends => exact tokenBehindDollar_bare named ends
  | lone alone => exact tokenBehindDollar_alone alone
  | plain other rest => exact if_neg other

private theorem exists_leads_dollar (cs : List Char) :
    ∃ token rest, Leads ('$' :: cs) token rest := by
  by_cases completes : Completes cs
  · cases completes with
    | dollar rest => exact ⟨_, _, .dollar rest⟩
    | braced named rest => exact ⟨_, _, .braced named rest⟩
    | @bare name named rest =>
      -- The name may go on in what follows it here, so it is taken again as far as it can go.
      have present : (name ++ rest).takeWhile isWordChar ≠ [] := by
        cases name with
        | nil => exact absurd rfl named.nonempty
        | cons c name => simp [named.head]
      have whole : (name ++ rest).takeWhile isWordChar ++ (name ++ rest).dropWhile isWordChar =
          name ++ rest := List.takeWhile_append_dropWhile
      have ends := leaves_dropWhile isWordChar (name ++ rest)
      exact ⟨_, _, whole ▸ Leads.bare (isName_takeWhile present) ends⟩
  · exact ⟨_, _, .lone completes⟩

private theorem leads_tokenAt (c : Char) (cs : List Char) :
    Leads (c :: cs) (tokenAt c cs) (cs.drop ((tokenAt c cs).source.length - 1)) := by
  have some : ∃ token rest, Leads (c :: cs) token rest := by
    by_cases dollar : c = '$'
    · exact dollar ▸ exists_leads_dollar cs
    · exact ⟨_, _, .plain dollar cs⟩
  obtain ⟨token, rest, leads⟩ := some
  rw [tokenAt_of_leads leads, ← leads.rest_eq]
  exact leads

end First

section Whole

private theorem tokensFrom_eq_drop (skip : Nat) (cs : List Char) :
    tokensFrom skip cs = tokensFrom 0 (cs.drop skip) := by
  induction cs generalizing skip with
  | nil => simp [tokensFrom]
  | cons c cs ih =>
    cases skip with
    | zero => rfl
    | succ skip => exact ih skip

private theorem tokensFrom_cons (c : Char) (cs : List Char) :
    tokensFrom 0 (c :: cs) =
      tokenAt c cs :: tokensFrom 0 (cs.drop ((tokenAt c cs).source.length - 1)) := by
  rw [tokensFrom, tokensFrom_eq_drop]

private theorem divides_tokensFrom (skip : Nat) (cs : List Char) :
    Divides (cs.drop skip) (tokensFrom skip cs) := by
  induction cs generalizing skip with
  | nil =>
    rw [List.drop_nil]
    exact .nil
  | cons c cs ih =>
    cases skip with
    | zero => exact .cons (leads_tokenAt c cs) (ih _)
    | succ skip => exact ih skip

private theorem tokensFrom_of_divides {cs : List Char} {tokens : List Token}
    (divides : Divides cs tokens) :
    tokensFrom 0 cs = tokens := by
  induction divides with
  | nil => rfl
  | @cons cs rest token tokens leads _ ih =>
    cases cs with
    | nil => cases leads
    | cons c cs => rw [tokensFrom_cons, tokenAt_of_leads leads, ← leads.rest_eq, ih]

theorem divides_iff {cs : List Char} {tokens : List Token} :
    Divides cs tokens ↔ tokens = tokensFrom 0 cs := by
  constructor
  · exact fun divides => (tokensFrom_of_divides divides).symm
  · rintro rfl
    exact divides_tokensFrom 0 cs

theorem Divides.source {cs : List Char} {tokens : List Token} (divides : Divides cs tokens) :
    tokens.flatMap Token.source = cs := by
  induction divides with
  | nil => rfl
  | cons leads _ ih => rw [List.flatMap_cons, ih, ← leads.source_append]

end Whole

end TypedRecords.Template
