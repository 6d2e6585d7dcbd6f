import Stencil.Proofs.Template.Acceptance

/-!
# Where a malformed body stops being a variable

Two of the errors of the parser name a place in the body. `malformed_at_longest` says that this is
the place where the longest beginning of the body that is a variable ends.

The argument compares the reading of a body with the readings of its beginnings. No step of the
parser looks further than one character behind what it takes off, so that it does the same if what
is left is cut short (`ident?_of_begins` to `filter_of_begins`). Hence a reading that fails behind
the type name and the key has come to a place up to which all longer beginnings are read in the same
way (`arrives_of_key`), and at this place they all fail.
-/

namespace Stencil

/-- The offset that an error names. -/
def ParseError.offset? : ParseError → Option Nat
  | unexpectedChar _ n => some n
  | missingFilterName n => some n
  | _ => none

namespace Body

variable {body s rest rest' : Text}

/-! ## Steps on what is cut short -/

/-- What is left of a text that is cut short begins as before. -/
theorem head?_of_begins (h : rest' <+: rest) {c : Char} (hc : c ∈ rest'.head?) :
    c ∈ rest.head? := by
  obtain ⟨t, rfl⟩ := h
  cases rest' with
  | nil => cases hc
  | cons d rest' => exact hc

/-- An identifier ends before the first character that it does not go on with. -/
theorem ident?_of_begins {name : Text} (h : ident? s = some (name, rest)) (hrest : rest' <+: rest) :
    ident? (name ++ rest') = some (name, rest') := by
  refine ident?_append (ident?_eq_some h).1 fun c hc => ?_
  have hhead := head?_of_begins hrest hc
  cases s with
  | nil => cases h
  | cons d s =>
    simp only [ident?, Option.ite_none_right_eq_some, Option.some.injEq, Prod.mk.injEq] at h
    have hstop := List.head?_dropWhile_not isIdentChar (d :: s)
    rw [h.2.2, Option.mem_def.1 hhead] at hstop
    simpa using hstop

/-- There is no identifier exactly if the first character does not begin one. -/
theorem ident?_eq_none_iff : ident? s = none ↔ ∀ c ∈ s.head?, ¬ isIdentStart c := by
  cases s with
  | nil => simp [ident?]
  | cons c s => simp [ident?]

/-- A key ends before the first character that is none of a key. -/
theorem key_of_begins {typeName k : Text} (h : key typeName s = .ok (k, rest)) :
    ∃ taken, s = taken ++ rest ∧
      ∀ rest', rest' <+: rest → key typeName (taken ++ rest') = .ok (k, rest') := by
  unfold key at h
  split at h
  · rename_i s
    split at h
    · cases h
    · rename_i hne
      cases h
      refine ⟨'.' :: s.takeWhile isKeyChar, by simp, fun rest' hrest => ?_⟩
      have hstop : ∀ c ∈ rest'.head?, ¬ isKeyChar c := by
        intro c hc
        have hhead := List.head?_dropWhile_not isKeyChar s
        rw [Option.mem_def.1 (head?_of_begins hrest hc)] at hhead
        simpa using hhead
      obtain ⟨htake, hdrop⟩ := takeWhile_run (fun c hc => List.mem_takeWhile_imp hc) hstop
      rw [List.cons_append, key, htake, hdrop]
      split
      · exact absurd ‹_› hne
      · rfl
  · rename_i hdot
    cases h
    refine ⟨[], rfl, fun rest' hrest => ?_⟩
    rw [List.nil_append, key.eq_def]
    split
    · obtain ⟨t, ht⟩ := hrest
      exact absurd ht.symm (hdot _)
    · rfl

/-- A filter call ends with its name or with the parenthesis that closes its argument. -/
theorem filter_of_begins {call : FilterCall} (h : filter body s = .ok (call, rest)) :
    ∃ taken, s = taken ++ rest ∧
      ∀ body' rest', rest' <+: rest → filter body' (taken ++ rest') = .ok (call, rest') := by
  unfold filter at h
  split at h
  · cases h
  · rename_i name s' hident
    obtain ⟨hname, rfl⟩ := ident?_eq_some hident
    split at h
    · -- The closing parenthesis has been taken off, so that what follows does not matter at all.
      rename_i n hn
      cases h
      obtain ⟨k, rfl, parts, rest, hparts, rfl, rfl⟩ := remainder_of_argumentLength hn
      refine ⟨name ++ '(' :: (argumentText parts ++ [')']), by simp, fun body' rest' _ => ?_⟩
      have hcall := filter_argument hname hparts body' rest'
      simpa using hcall
    all_goals cases h
  · rename_i name s' hopen hident
    cases h
    obtain ⟨-, rfl⟩ := ident?_eq_some hident
    refine ⟨name, rfl, fun body' rest' hrest => ?_⟩
    refine filter_name (ident?_of_begins hident hrest) ?_ body'
    rintro c hc rfl
    obtain ⟨t, ht⟩ := List.head?_eq_some_iff.1 (head?_of_begins hrest hc)
    exact hopen t ht

/-- A filter call fails where there is no name, or for its argument. -/
theorem filter_eq_error {e : ParseError} (h : filter body s = .error e) :
    (e = .missingFilterName (offset body s) ∧ ident? s = none) ∨ e.offset? = none := by
  unfold filter at h
  split at h
  · cases h
    exact .inl ⟨rfl, ‹_›⟩
  · split at h <;> cases h <;> exact .inr rfl
  · cases h

/-- Without a name, there is no filter call. -/
theorem filter_of_no_name (h : ident? s = none) (body : Text) :
    filter body s = .error (.missingFilterName (offset body s)) := by
  rw [filter, h]

/-- A filter call that fails ends the reading. -/
theorem filters_of_error {e : ParseError} (h : filter body s = .error e)
    (done : List FilterCall) : filters body done (':' :: s) = .error e := by
  rw [filters]
  split
  · rename_i heq
    cases heq.symm.trans h
  · rename_i heq
    cases heq.symm.trans h
    rfl

/-! ## The place where the reading stops -/

/-- Filter calls are read up to a place where there is no colon or the call behind it fails. -/
theorem filters_arrives (body s : Text) (done : List FilterCall) :
    ∃ taken done' rest, s = taken ++ rest ∧
      (∀ s', rest = ':' :: s' → ∃ e, filter body s' = .error e) ∧
      ∀ body' rest', rest' <+: rest →
        filters body' done (taken ++ rest') = filters body' done' rest' := by
  fun_induction filters body done s with
  | case1 done s call after hcall hlength ih =>
    obtain ⟨takenCall, rfl, hfilter⟩ := filter_of_begins hcall
    obtain ⟨taken, done', rest, rfl, hstop, harrives⟩ := ih
    refine ⟨':' :: (takenCall ++ taken), done', rest, by simp, hstop, fun body' rest' hrest => ?_⟩
    have hcut : taken ++ rest' <+: taken ++ rest := (List.prefix_append_right_inj taken).2 hrest
    rw [List.cons_append, List.append_assoc, filters_cons (hfilter body' _ hcut),
      harrives _ _ hrest]
  | case2 done s e hcall =>
    refine ⟨[], done, ':' :: s, rfl, ?_, fun _ _ _ => rfl⟩
    rintro s' ⟨⟩
    exact ⟨e, hcall⟩
  | case3 done s hs => exact ⟨[], done, s, rfl, fun s' hs' => absurd hs' (hs s'), fun _ _ _ => rfl⟩

/-- The end of reading a variable, from its filter calls on. -/
def readCalls (typeName k body : Text) (done : List FilterCall) (s : Text) :
    Except ParseError Variable := do
  let (calls, s) ← filters body done s
  let fallback ← ending body s
  return ⟨typeName, k, calls, fallback⟩

section Calls

variable (typeName k body : Text) (done : List FilterCall)

/-- With nothing left, there is a variable without a default literal. -/
theorem readCalls_nil :
    readCalls typeName k body done [] = .ok ⟨typeName, k, done.reverse, none⟩ := by
  unfold readCalls
  rw [filters_stop fun c hc => by cases hc]
  rfl

/-- A character that begins neither a filter call nor a default literal is not expected. -/
theorem readCalls_unexpected {c : Char} (hcolon : c ≠ ':') (hbar : c ≠ '|') (s : Text) :
    readCalls typeName k body done (c :: s)
      = .error (.unexpectedChar c (offset body (c :: s))) := by
  have hhead : ∀ d ∈ (c :: s).head?, d ≠ ':' := by
    rintro d ⟨⟩
    exact hcolon
  have hending : ending body (c :: s) = .error (.unexpectedChar c (offset body (c :: s))) := by
    unfold ending
    split
    · contradiction
    · rename_i heq
      exact absurd (List.cons.inj heq).1 hbar
    · rename_i heq
      cases heq
      rfl
  unfold readCalls
  rw [filters_stop hhead]
  show (ending body (c :: s) >>= _) = _
  rw [hending]
  rfl

/-- A bar that begins no default literal has an error of its own. -/
theorem readCalls_bar {e : ParseError} {s : Text}
    (h : readCalls typeName k body done ('|' :: s) = .error e) : e = .invalidDefault := by
  have hhead : ∀ d ∈ ('|' :: s).head?, d ≠ ':' := by
    rintro d ⟨⟩
    decide
  unfold readCalls at h
  rw [filters_stop hhead] at h
  change (ending body ('|' :: s) >>= _) = _ at h
  rw [ending] at h
  split at h
  · cases h
  · cases h
    rfl

/-- A filter call that fails is the reason for which there is no variable. -/
theorem readCalls_of_error {e : ParseError} {s : Text} (h : filter body s = .error e) :
    readCalls typeName k body done (':' :: s) = .error e := by
  unfold readCalls
  rw [filters_of_error h]
  rfl

end Calls

/-- A text is read as far as filter calls go, and no beginning of what is left makes a difference to
this. -/
def Arrives (typeName k : Text) (done : List FilterCall) (taken rest : Text) : Prop :=
  ∀ body rest', rest' <+: rest →
    parseVariable body (taken ++ rest') = readCalls typeName k body done rest'

/-- A key that fails is empty. -/
theorem key_eq_error {typeName : Text} {e : ParseError} (h : key typeName s = .error e) :
    e = .missingKey := by
  unfold key at h
  split at h
  · split at h
    · cases h
      rfl
    · cases h
  · cases h

/-- Behind a type name and a key, a text is read up to a place where there is no colon or the call
behind it fails. -/
theorem arrives_of_key {typeName k s₁ s₂ : Text} (hident : ident? s = some (typeName, s₁))
    (hkey : key typeName s₁ = .ok (k, s₂)) (body : Text) :
    ∃ done taken rest, s = taken ++ rest ∧ Arrives typeName k done taken rest ∧
      ∀ s', rest = ':' :: s' → ∃ e, filter body s' = .error e := by
  obtain ⟨-, rfl⟩ := ident?_eq_some hident
  obtain ⟨takenKey, rfl, hkeys⟩ := key_of_begins hkey
  obtain ⟨taken, done, rest, rfl, hstop, hcalls⟩ := filters_arrives body s₂ []
  refine ⟨done, typeName ++ (takenKey ++ taken), rest, by simp, fun body' rest' hrest => ?_, hstop⟩
  have hcut : taken ++ rest' <+: taken ++ rest := (List.prefix_append_right_inj taken).2 hrest
  have hcut' : takenKey ++ (taken ++ rest') <+: takenKey ++ (taken ++ rest) :=
    (List.prefix_append_right_inj takenKey).2 hcut
  unfold parseVariable
  rw [List.append_assoc, List.append_assoc, ident?_of_begins hident hcut']
  show (key typeName _ >>= _) = _
  rw [hkeys _ hcut]
  show (filters body' [] _ >>= _) = _
  rw [hcalls _ _ hrest]
  rfl

/-- A variable fails for its type name, for its key, or behind them. -/
theorem arrives_of_error {e : ParseError} (h : parseVariable body s = .error e) :
    e = .missingIdentifier ∨ e = .missingKey ∨
      ∃ typeName k done taken rest, s = taken ++ rest ∧ Arrives typeName k done taken rest ∧
        ∀ s', rest = ':' :: s' → ∃ e, filter body s' = .error e := by
  unfold parseVariable at h
  cases hident : ident? s with
  | none =>
    rw [hident] at h
    cases h
    exact .inl rfl
  | some p =>
    obtain ⟨typeName, s₁⟩ := p
    cases hkey : key typeName s₁ with
    | error e' =>
      rw [hident] at h
      change (key typeName s₁ >>= _) = _ at h
      rw [hkey] at h
      cases h
      exact .inr (.inl (key_eq_error hkey))
    | ok p =>
      obtain ⟨k, s₂⟩ := p
      obtain ⟨done, taken, rest, harrives⟩ := arrives_of_key hident hkey body
      exact .inr (.inr ⟨typeName, k, done, taken, rest, harrives⟩)

/-! ## The longest variable -/

/-- A beginning of a body that is a variable without a default literal, where no longer beginning of
the body is a variable. -/
structure LongestVariable (before body : Text) : Prop where
  begins : before <+: body
  isVariable : ∃ v, parse before = .lookup v ∧ v.fallback = none
  longest : ∀ longer v, longer <+: body → parse longer = .lookup v → longer.length ≤ before.length

/-- Where everything that is left fails however it is cut short, the longest variable has been
read. -/
theorem Arrives.longestVariable {typeName k taken : Text} {done : List FilterCall}
    (h : Arrives typeName k done taken rest)
    (hfails : ∀ body c s, c :: s <+: rest →
      ∃ e, readCalls typeName k body done (c :: s) = .error e) :
    LongestVariable ('$' :: taken) ('$' :: (taken ++ rest)) := by
  refine ⟨⟨rest, rfl⟩, ?_, fun longer v hlonger hv => ?_⟩
  · -- Cut off at this place, the body is a variable.
    have hvariable := h ('$' :: taken) [] List.nil_prefix
    rw [List.append_nil, readCalls_nil] at hvariable
    exact ⟨⟨typeName, k, done.reverse, none⟩, by rw [parse, hvariable], rfl⟩
  · -- A longer one goes on with what is left, where it fails like the body itself.
    by_contra hlength
    have htaken : '$' :: taken <+: longer :=
      List.prefix_of_prefix_length_le ⟨rest, rfl⟩ hlonger (Nat.le_of_not_le hlength)
    obtain ⟨more, rfl⟩ := htaken
    cases more with
    | nil => exact hlength (by simp)
    | cons c s =>
      rw [List.cons_append, List.cons_prefix_cons, List.prefix_append_right_inj] at hlonger
      obtain ⟨s', hs', hvariable⟩ := parse_eq_lookup hv
      obtain ⟨-, rfl⟩ := List.cons.inj hs'
      obtain ⟨e, he⟩ := hfails ('$' :: taken ++ c :: s) c s hlonger.2
      cases ((h _ _ hlonger.2).trans he).symm.trans hvariable

/-- A body is malformed because it begins with neither mark of a body or is nothing but a slash, or
because its variable is malformed. -/
theorem parse_eq_malformed {e : ParseError} (h : parse body = .malformed e) :
    e = .empty ∨ e = .emptyPath ∨ e = .unknownForm ∨
      ∃ s, body = '$' :: s ∧ parseVariable body s = .error e := by
  unfold parse at h
  split at h
  · cases h
    exact .inl rfl
  · cases h
    exact .inr (.inl rfl)
  · cases h
  · rename_i s
    split at h
    · cases h
    · cases h
      exact .inr (.inr (.inr ⟨s, rfl, ‹_›⟩))
  · cases h
    exact .inr (.inr (.inl rfl))

/-- The offset of what is left is the length of what stands before it. -/
theorem offset_append (before rest : Text) :
    offset (before ++ rest) rest = Text.byteLength before := by
  rw [offset, Text.byteLength_append, Nat.add_sub_cancel]

/-- A body whose error names a place begins with the longest variable up to this place, and there
stands the character that is not expected, or the colon behind which a name is missing. -/
theorem place_of_offset {e : ParseError} (h : parse body = .malformed e) (he : e.offset? ≠ none) :
    ∃ before c after, body = before ++ c :: after ∧ LongestVariable before body ∧
      (e = .unexpectedChar c (Text.byteLength before) ∨
        (c = ':' ∧ e = .missingFilterName (Text.byteLength before + 1))) := by
  rcases parse_eq_malformed h with rfl | rfl | rfl | ⟨s, rfl, hvariable⟩
  iterate 3 exact absurd rfl he
  rcases arrives_of_error hvariable with
    rfl | rfl | ⟨typeName, k, done, taken, rest, rfl, harrives, hstop⟩
  iterate 2 exact absurd rfl he
  have hread := (harrives ('$' :: (taken ++ rest)) rest List.prefix_rfl).symm.trans hvariable
  cases rest with
  | nil => cases (readCalls_nil typeName k _ done).symm.trans hread
  | cons c s =>
    -- Which error it is depends on the next character: a bar has one that names no place, behind a
    -- colon the name is missing, and any other character is not expected.
    refine ⟨'$' :: taken, c, s, rfl, ?_⟩
    by_cases hbar : c = '|'
    · subst hbar
      rw [readCalls_bar typeName k _ done hread] at he
      exact absurd rfl he
    · by_cases hcolon : c = ':'
      · subst hcolon
        obtain ⟨e', hcall⟩ := hstop s rfl
        cases hread.symm.trans (readCalls_of_error typeName k _ done hcall)
        obtain ⟨rfl, hname⟩ := (filter_eq_error hcall).resolve_right he
        refine ⟨harrives.longestVariable fun body' c s' hcut => ?_, .inr ⟨rfl, ?_⟩⟩
        · -- What is cut short behind the colon does not begin with a name either.
          obtain ⟨rfl, hbehind⟩ := List.cons_prefix_cons.1 hcut
          have hnone : ident? s' = none := ident?_eq_none_iff.2 fun c hc =>
            ident?_eq_none_iff.1 hname c (head?_of_begins hbehind hc)
          exact ⟨_, readCalls_of_error typeName k body' done (filter_of_no_name hnone body')⟩
        · have hoffset := offset_append ('$' :: taken ++ [':']) s
          rw [List.append_assoc, Text.byteLength_append] at hoffset
          exact congrArg ParseError.missingFilterName hoffset
      · refine ⟨harrives.longestVariable fun body' c' s' hcut => ?_, .inl ?_⟩
        · obtain ⟨rfl, -⟩ := List.cons_prefix_cons.1 hcut
          exact ⟨_, readCalls_unexpected typeName k body' done hcolon hbar s'⟩
        · have hunexpected := readCalls_unexpected typeName k ('$' :: (taken ++ c :: s)) done
            hcolon hbar s
          cases hunexpected.symm.trans hread
          exact congrArg (ParseError.unexpectedChar c) (offset_append ('$' :: taken) (c :: s))

/-- The offset of a character that is not expected is the one at which this character stands in the
body, and the offset of a missing filter name is the one behind a colon. What stands before the
character, or before the colon, is a variable without a default literal, and no longer beginning of
the body is a variable. -/
theorem malformed_at_longest (body : Text) :
    (∀ ch offset, parse body = .malformed (.unexpectedChar ch offset) →
      ∃ before after, body = before ++ ch :: after ∧ offset = Text.byteLength before ∧
        LongestVariable before body) ∧
    ∀ offset, parse body = .malformed (.missingFilterName offset) →
      ∃ before after, body = before ++ ':' :: after ∧ offset = Text.byteLength before + 1 ∧
        LongestVariable before body := by
  constructor
  · intro ch offset h
    obtain ⟨before, c, after, hbody, hlongest, herror | ⟨-, herror⟩⟩ := place_of_offset h nofun
    · cases herror
      exact ⟨before, after, hbody, rfl, hlongest⟩
    · cases herror
  · intro offset h
    obtain ⟨before, c, after, hbody, hlongest, herror | ⟨rfl, herror⟩⟩ := place_of_offset h nofun
    · cases herror
    · cases herror
      exact ⟨before, after, hbody, rfl, hlongest⟩

/-- The offsets count bytes: the key and the argument hold characters of two and of three. -/
theorem malformed_at_longest_wide :
    (parse "$x.ключ:f('€')(".toList = .malformed (.unexpectedChar '(' 20) ∧
      ∃ before after, "$x.ключ:f('€')(".toList = before ++ '(' :: after ∧
        20 = Text.byteLength before ∧ LongestVariable before "$x.ключ:f('€')(".toList) ∧
    parse "$x.ключ:f('€'):9".toList = .malformed (.missingFilterName 21) ∧
      ∃ before after, "$x.ключ:f('€'):9".toList = before ++ ':' :: after ∧
        21 = Text.byteLength before + 1 ∧ LongestVariable before "$x.ключ:f('€'):9".toList := by
  have hchar : parse "$x.ключ:f('€')(".toList = .malformed (.unexpectedChar '(' 20) := by
    decide +kernel
  have hname : parse "$x.ключ:f('€'):9".toList = .malformed (.missingFilterName 21) := by
    decide +kernel
  exact ⟨⟨hchar, (malformed_at_longest _).1 _ _ hchar⟩, hname, (malformed_at_longest _).2 _ hname⟩

end Body

end Stencil
