import Velero.Kube.Object

/-!
# Velero.Labels.Selector — label values, label keys and equality-based label selectors

Follows `k8s.io/apimachinery` (`pkg/util/validation`, `pkg/labels`), which is not under src/:
what the Ark helpers use of it.

* `isValidLabelValue` (`validation.IsValidLabelValue`), `isQualifiedName` (`IsQualifiedName`,
  the check of label keys) and `isDNS1123Subdomain` (`IsDNS1123Subdomain`, the names the API
  server admits for a Backup).  `isDNS1123Subdomain` checks the length, the characters and the
  first and last one, but not that every dot-separated label starts and ends with `[a-z0-9]`: it
  admits a superset (`a..b`, `a-.b`), so results assuming it hold for every admitted name.
* `lex`: the lexer of `labels.Parse` on characters.  An identifier is a run of characters that
  are neither whitespace nor one of `=!(),<>`; an operator is the longest of `=`, `==`, `!`, `!=`,
  `(`, `)`, `,`, `<`, `>` that matches.
* `parse` (`labels.Parse`): requirements `key`, `!key`, `key=value`, `key==value`, `key!=value`,
  separated by commas.  Each key must be a qualified name, each value a valid label value, and
  the requirements are sorted by key.  The set-based requirements (`in`, `notin`) and `gt`, `lt`
  are not modelled: `parse` rejects them as `unsupported`.
* `Selector.matches` (`internalSelector.Matches`): every requirement matches the labels.
-/

namespace Velero.Labels

open Velero.Kube

/-! ## Validation -/

/-- `[a-z0-9]`, the characters that start and end a DNS-1123 subdomain. -/
def isLowerAlnum (c : Char) : Bool := c.isLower || c.isDigit

/-- `[-A-Za-z0-9_.]`, the characters of a label value. -/
def isLabelChar (c : Char) : Bool := c.isAlphanum || c = '-' || c = '_' || c = '.'

/-- `cs` is non-empty, starts and ends with characters satisfying `edge`, and all its characters
satisfy `inner`. -/
def edged (edge inner : Char → Bool) (cs : List Char) : Bool :=
  match cs.head?, cs.getLast? with
  | some a, some b => edge a && edge b && cs.all inner
  | _, _ => false

/-- After `validation.IsDNS1123Subdomain`: at most 253 characters of `[a-z0-9.-]`, starting and
ending with `[a-z0-9]`.  Unlike the regular expression there, the labels between the dots are not
checked one by one, so `a..b` and `a-.b` pass. -/
def isDNS1123Subdomain (s : String) : Bool :=
  s.length ≤ 253 && edged isLowerAlnum (fun c => isLowerAlnum c || c = '-' || c = '.') s.toList

/-- `validation.IsValidLabelValue`: at most 63 characters, empty or starting and ending with
`[A-Za-z0-9]` with `[-A-Za-z0-9_.]` between. -/
def isValidLabelValue (value : String) : Bool :=
  value.length ≤ 63 && (value.isEmpty || edged Char.isAlphanum isLabelChar value.toList)

/-- The name part of a qualified name: a non-empty label value. -/
def isQualifiedNamePart (name : String) : Bool :=
  name.length ≤ 63 && edged Char.isAlphanum isLabelChar name.toList

/-- `strings.Split` on characters: the parts between the separators. -/
def splitOn (sep : Char) : List Char → List (List Char)
  | [] => [[]]
  | c :: cs =>
    match splitOn sep cs with
    | [] => [[c]]
    | part :: parts => if c = sep then [] :: part :: parts else (c :: part) :: parts

/-- `validation.IsQualifiedName`, the check of a label key: a name part, after an optional prefix
and a `/`; the prefix is checked by `isDNS1123Subdomain`, so it admits the same superset. -/
def isQualifiedName (key : String) : Bool :=
  match splitOn '/' key.toList with
  | [name] => isQualifiedNamePart (String.mk name)
  | [pre, name] =>
    !pre.isEmpty && isDNS1123Subdomain (String.mk pre) && isQualifiedNamePart (String.mk name)
  | _ => false

section Edged

variable {e i e' i' : Char → Bool} {cs : List Char}

theorem edged_all (h : edged e i cs) : ∀ c ∈ cs, i c := by
  unfold edged at h
  split at h <;> simp_all

theorem edged_mono (he : ∀ c, e c → e' c) (hi : ∀ c, i c → i' c) (h : edged e i cs) :
    edged e' i' cs := by
  unfold edged at h ⊢
  split at h <;> simp_all

end Edged

section Subdomain

variable {n : String}

theorem isLowerAlnum_isAlphanum {c : Char} (h : isLowerAlnum c) : c.isAlphanum := by
  simp only [isLowerAlnum, Char.isAlphanum, Char.isAlpha, Bool.or_eq_true] at h ⊢
  rcases h with h | h <;> simp [h]

theorem isLabelChar_of_subdomain {c : Char} (h : isLowerAlnum c || c = '-' || c = '.') :
    isLabelChar c := by
  simp only [Bool.or_eq_true, decide_eq_true_eq] at h
  rcases h with (h | rfl) | rfl
  · simp [isLabelChar, isLowerAlnum_isAlphanum h]
  all_goals rfl

theorem ne_empty_of_isDNS1123Subdomain (h : isDNS1123Subdomain n) : n ≠ "" := by
  rintro rfl
  exact absurd h (by decide)

/-- The characters of a DNS-1123 subdomain are label characters. -/
theorem isLabelChar_of_isDNS1123Subdomain (h : isDNS1123Subdomain n) :
    ∀ c ∈ n.toList, isLabelChar c := by
  simp only [isDNS1123Subdomain, Bool.and_eq_true] at h
  exact fun c hc => isLabelChar_of_subdomain (edged_all h.2 c hc)

/-- A DNS-1123 subdomain is a valid label value exactly when it has at most 63 characters. -/
theorem isValidLabelValue_iff_of_isDNS1123Subdomain (h : isDNS1123Subdomain n) :
    isValidLabelValue n ↔ n.length ≤ 63 := by
  simp only [isDNS1123Subdomain, Bool.and_eq_true] at h
  have he : edged Char.isAlphanum isLabelChar n.toList :=
    edged_mono (fun _ => isLowerAlnum_isAlphanum) (fun _ => isLabelChar_of_subdomain) h.2
  simp only [isValidLabelValue, he, Bool.or_true, Bool.and_true, decide_eq_true_eq]

end Subdomain

/-! ## Selectors -/

/-- `selection.Operator`: the existence tests and the equality-based operators. -/
inductive Operator where
  | doesNotExist
  | equals
  | doubleEquals
  | notEquals
  | «exists»
deriving DecidableEq, Repr

/-- `labels.Requirement`. -/
structure Requirement where
  key : String
  operator : Operator
  strValues : List String
deriving DecidableEq, Repr

/-- `Requirement.Matches`. -/
def Requirement.matches (r : Requirement) (ls : StrMap) : Bool :=
  match r.operator, ls.get? r.key with
  | .equals, some v | .doubleEquals, some v => r.strValues.contains v
  | .equals, none | .doubleEquals, none => false
  | .notEquals, some v => !r.strValues.contains v
  | .notEquals, none => true
  | .exists, l => l.isSome
  | .doesNotExist, l => l.isNone

/-- `labels.internalSelector`. -/
abbrev Selector := List Requirement

/-- `internalSelector.Matches`: every requirement matches; the empty selector matches all. -/
def Selector.matches (s : Selector) (ls : StrMap) : Bool := s.all (·.matches ls)

/-! ## The lexer -/

/-- The tokens of `labels.Parse`; `in` and `notin` are identifiers here and are told apart by the
parser where an operator is expected. -/
inductive Token where
  | identifier (s : String)
  | doesNotExist
  | equals
  | doubleEquals
  | notEquals
  | comma
  | openPar
  | closedPar
  | greaterThan
  | lessThan
deriving DecidableEq, Repr

/-- `isWhitespace`. -/
def isWhitespace (c : Char) : Bool := c = ' ' || c = '\t' || c = '\r' || c = '\n'

/-- `isSpecialSymbol`: the characters operators are made of. -/
def isSpecialSymbol (c : Char) : Bool :=
  c = '=' || c = '!' || c = '(' || c = ')' || c = ',' || c = '>' || c = '<'

/-- The one-character operator `c`. -/
def symbolToken (c : Char) : Token :=
  if c = '=' then .equals else if c = '!' then .doesNotExist else if c = ',' then .comma
  else if c = '(' then .openPar else if c = ')' then .closedPar else if c = '>' then .greaterThan
  else .lessThan

/-- The identifier read so far (reversed in `ident`), if any, before `ts`. -/
def endIdent (ident : List Char) (ts : List Token) : List Token :=
  if ident = [] then ts else .identifier (String.mk ident.reverse) :: ts

/-- The lexer, on the characters after the identifier `ident` read so far (reversed).  `==` and
`!=` are read as one operator. -/
def lex (ident : List Char) : List Char → List Token
  | [] => endIdent ident []
  | c :: cs =>
    if isWhitespace c then endIdent ident (lex [] cs)
    else if isSpecialSymbol c then
      if (c = '=' || c = '!') && cs.head? = some '=' then
        endIdent ident ((if c = '=' then .doubleEquals else .notEquals) :: lex [] cs.tail)
      else endIdent ident (symbolToken c :: lex [] cs)
    else lex (c :: ident) cs
termination_by cs => cs.length
decreasing_by all_goals simp only [List.length_cons, List.length_tail]; omega

/-- A character of an identifier: neither whitespace nor part of an operator. -/
def isPlain (c : Char) : Bool := !isWhitespace c && !isSpecialSymbol c

theorem isPlain_of_isLabelChar {c : Char} (h : isLabelChar c) : isPlain c := by
  simp only [isPlain, isWhitespace, isSpecialSymbol, Bool.and_eq_true, Bool.not_eq_true',
    Bool.or_eq_false_iff, decide_eq_false_iff_not]
  repeat' constructor
  all_goals rintro rfl; revert h; decide

section Lex

variable {ident : List Char}

theorem lex_plain {c : Char} (hc : isPlain c) (cs : List Char) :
    lex ident (c :: cs) = lex (c :: ident) cs := by
  simp only [isPlain, Bool.and_eq_true, Bool.not_eq_true'] at hc
  rw [lex, if_neg (by simp [hc.1]), if_neg (by simp [hc.2])]

/-- A run of plain characters extends the identifier. -/
theorem lex_append_plain {w : List Char} (hw : ∀ c ∈ w, isPlain c) (cs : List Char) :
    lex ident (w ++ cs) = lex (w.reverse ++ ident) cs := by
  induction w generalizing ident with
  | nil => rfl
  | cons c w ih =>
    rw [List.cons_append, lex_plain (hw c (.head _)), ih fun c h => hw c (.tail _ h)]
    simp

/-- `=` before a plain character is the operator `=`. -/
theorem lex_equals {c : Char} (hc : isPlain c) (cs : List Char) :
    lex ident ('=' :: c :: cs) = endIdent ident (.equals :: lex [] (c :: cs)) := by
  have hc' : c ≠ '=' := by rintro rfl; simp [isPlain, isSpecialSymbol] at hc
  rw [lex, if_neg (by decide), if_pos (by decide), if_neg (by simp [hc'])]
  rfl

/-- A non-empty word of plain characters is one identifier. -/
theorem lex_word {w : List Char} (hw : ∀ c ∈ w, isPlain c) (hne : w ≠ []) :
    lex [] w = [.identifier (String.mk w)] := by
  have h := @lex_append_plain [] w hw []
  rw [List.append_nil, List.append_nil] at h
  rw [h, lex, endIdent, if_neg (by simpa using hne), List.reverse_reverse]

end Lex

/-! ## The parser -/

/-- Why `labels.Parse` rejects a selector. -/
inductive ParseError where
  | invalidKey (key : String)
  | invalidValue (key value : String)
  | unexpected (tok : Token)
  | endOfString
  | unsupported (tok : Token)
deriving DecidableEq, Repr

/-- `labels.NewRequirement`, for the values the parser gives each operator: the key must be a
qualified name and every value a valid label value. -/
def newRequirement (key : String) (op : Operator) (vals : List String) :
    Except ParseError Requirement :=
  if !isQualifiedName key then .error (.invalidKey key)
  else match vals.find? (fun v => !isValidLabelValue v) with
    | some v => .error (.invalidValue key v)
    | none => .ok ⟨key, op, vals⟩

/-- `parseExactValue`: the value after `=`, `==` or `!=`, empty before a comma or the end. -/
def parseExactValue : List Token → Except ParseError (String × List Token)
  | [] => .ok ("", [])
  | .comma :: ts => .ok ("", .comma :: ts)
  | .identifier v :: ts => .ok (v, ts)
  | t :: _ => .error (.unexpected t)

/-- The requirement `key op value` for the tokens after the operator. -/
def parseExact (key : String) (op : Operator) (ts : List Token) :
    Except ParseError (Requirement × List Token) := do
  let (v, rest) ← parseExactValue ts
  let r ← newRequirement key op [v]
  pure (r, rest)

/-- `parseRequirement`: the requirement at the head of the tokens, and the tokens after it. -/
def parseRequirement : List Token → Except ParseError (Requirement × List Token)
  | .doesNotExist :: .identifier key :: ts =>
    (newRequirement key .doesNotExist []).map (·, ts)
  | .identifier key :: ts =>
    if !isQualifiedName key then .error (.invalidKey key) else
    match ts with
    | [] => (newRequirement key .exists []).map (·, [])
    | .comma :: ts' => (newRequirement key .exists []).map (·, .comma :: ts')
    | .equals :: ts' => parseExact key .equals ts'
    | .doubleEquals :: ts' => parseExact key .doubleEquals ts'
    | .notEquals :: ts' => parseExact key .notEquals ts'
    | .identifier "in" :: _ => .error (.unsupported (.identifier "in"))
    | .identifier "notin" :: _ => .error (.unsupported (.identifier "notin"))
    | .greaterThan :: _ => .error (.unsupported .greaterThan)
    | .lessThan :: _ => .error (.unsupported .lessThan)
    | t :: _ => .error (.unexpected t)
  | .doesNotExist :: t :: _ => .error (.unexpected t)
  | t :: _ => .error (.unexpected t)
  | [] => .error .endOfString

/-- The tokens that start a requirement: a key, or `!` before one. -/
def startsRequirement : Token → Bool
  | .identifier _ | .doesNotExist => true
  | _ => false

section Length

variable {ts rest : List Token} {r : Requirement}

theorem parseExactValue_length {v : String} (h : parseExactValue ts = .ok (v, rest)) :
    rest.length ≤ ts.length := by
  unfold parseExactValue at h
  split at h <;> cases h <;> simp

theorem parseExact_length {key : String} {op : Operator} (h : parseExact key op ts = .ok (r, rest)) :
    rest.length ≤ ts.length := by
  unfold parseExact at h
  rcases hv : parseExactValue ts with e | ⟨v, rest'⟩ <;>
    simp only [hv, bind, Except.bind, pure, Except.pure, reduceCtorEq] at h
  split at h
  · cases h
  · cases h
    exact parseExactValue_length hv

theorem map_pair_eq_ok {x : Except ParseError Requirement} (h : x.map (·, ts) = .ok (r, rest)) :
    rest = ts := by
  cases x <;> simp_all [Except.map]

/-- A requirement takes at least one token. -/
theorem parseRequirement_length (h : parseRequirement ts = .ok (r, rest)) :
    rest.length < ts.length := by
  unfold parseRequirement at h
  split at h
  · rw [map_pair_eq_ok h]
    simp only [List.length_cons]
    omega
  · split at h
    · cases h
    · split at h <;> first
        | cases h
        | (simp only [map_pair_eq_ok h, List.length_cons]; omega)
        | (have hl := parseExact_length h; simp only [List.length_cons] at hl ⊢; omega)
  all_goals cases h

end Length

/-- `Parser.parse`: requirements separated by commas, up to the end of the string. -/
def parseRequirements (ts : List Token) : Except ParseError Selector :=
  match ts.head? with
  | none => .ok []
  | some t =>
    if !startsRequirement t then .error (.unexpected t) else
    match _h : parseRequirement ts with
    | .error e => .error e
    | .ok (r, []) => .ok [r]
    | .ok (r, .comma :: rest) =>
      match rest.head? with
      | none => .error .endOfString
      | some t' =>
        if startsRequirement t' then (r :: ·) <$> parseRequirements rest else .error (.unexpected t')
    | .ok (_, t' :: _) => .error (.unexpected t')
termination_by ts.length
decreasing_by have := parseRequirement_length _h; simp only [List.length_cons] at this; omega

section Loop

variable {ts : List Token} {t : Token}

theorem parseRequirements_of_last {r : Requirement} (h : parseRequirement ts = .ok (r, []))
    (ht : ts.head? = some t) (hs : startsRequirement t) :
    parseRequirements ts = .ok [r] := by
  rw [parseRequirements, ht]
  simp only [hs, Bool.not_true, Bool.false_eq_true, if_false]
  split <;> simp_all

theorem parseRequirements_of_error {e : ParseError} (h : parseRequirement ts = .error e)
    (ht : ts.head? = some t) (hs : startsRequirement t) :
    parseRequirements ts = .error e := by
  rw [parseRequirements, ht]
  simp only [hs, Bool.not_true, Bool.false_eq_true, if_false]
  split <;> simp_all

end Loop

/-- `labels.Parse`: the requirements of the selector, sorted by key (the order of Go strings, that
of `String.decLE`). -/
def parse (selector : String) : Except ParseError Selector :=
  (parseRequirements (lex [] selector.toList)).map fun rs =>
    rs.mergeSort fun a b => @decide _ (String.decLE a.key b.key)

/-! ## Equality selectors -/

section Equals

variable {key value : String}

theorem isQualifiedName_ne_empty (hk : isQualifiedName key) : key ≠ "" := by
  rintro rfl
  exact absurd hk (by decide)

/-- The tokens of `key=value`, for a key and a non-empty value of plain characters. -/
theorem lex_equals_selector (hkp : ∀ c ∈ key.toList, isPlain c) (hk : key ≠ "")
    (hvp : ∀ c ∈ value.toList, isPlain c) (hv : value ≠ "") :
    lex [] (key ++ "=" ++ value).toList = [.identifier key, .equals, .identifier value] := by
  obtain ⟨c, cs, hcs⟩ : ∃ c cs, value.toList = c :: cs := by
    cases h : value.toList with
    | nil => exact absurd (String.ext_iff.mpr h) hv
    | cons c cs => exact ⟨c, cs, rfl⟩
  have hsel : (key ++ "=" ++ value).toList = key.toList ++ '=' :: value.toList := by
    simp [String.toList]
  have hkey : key.toList ≠ [] := fun h => hk (String.ext_iff.mpr h)
  rw [hsel, lex_append_plain hkp, List.append_nil, hcs,
    lex_equals (hvp c (by rw [hcs]; exact .head _)), ← hcs,
    lex_word hvp (by rw [hcs]; exact List.cons_ne_nil _ _), endIdent,
    if_neg (by simpa using hkey), List.reverse_reverse]
  rfl

theorem newRequirement_one {op : Operator} (hk : isQualifiedName key) :
    newRequirement key op [value] =
      if isValidLabelValue value then .ok ⟨key, op, [value]⟩ else .error (.invalidValue key value) := by
  by_cases h : isValidLabelValue value <;> simp [newRequirement, hk, h]

/-- `labels.Parse` of `key=value`, for a qualified key and a non-empty value of plain characters:
the one requirement `key = value`, or the value's rejection. -/
theorem parse_equals (hk : isQualifiedName key) (hkp : ∀ c ∈ key.toList, isPlain c)
    (hvp : ∀ c ∈ value.toList, isPlain c) (hv : value ≠ "") :
    parse (key ++ "=" ++ value) = if isValidLabelValue value then .ok [⟨key, .equals, [value]⟩]
      else .error (.invalidValue key value) := by
  have hr : parseRequirement [.identifier key, .equals, .identifier value] =
      (newRequirement key .equals [value]).bind fun r => .ok (r, []) := by
    simp only [parseRequirement, hk, Bool.not_true, Bool.false_eq_true, if_false, parseExact,
      parseExactValue]
    rfl
  rw [parse, lex_equals_selector hkp (isQualifiedName_ne_empty hk) hvp hv, newRequirement_one hk] at *
  by_cases h : isValidLabelValue value
  · simp only [h, if_true] at hr ⊢
    rw [parseRequirements_of_last hr rfl rfl]
    simp [Except.map]
  · simp only [h, if_false] at hr ⊢
    rw [parseRequirements_of_error hr rfl rfl]
    rfl

/-- The requirement `key = value` matches exactly the labels holding `value` under `key`. -/
theorem matches_equals (ls : StrMap) :
    Selector.matches [⟨key, .equals, [value]⟩] ls ↔ ls.get? key = some value := by
  cases h : ls.get? key <;> simp [Selector.matches, Requirement.matches, h, eq_comm]

end Equals

end Velero.Labels
