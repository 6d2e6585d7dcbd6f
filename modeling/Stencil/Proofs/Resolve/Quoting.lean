import Stencil.CommandLine.Setup
import Stencil.Proofs.Filter.Quoting
import Stencil.Proofs.Resolve.Isolation
import Stencil.Proofs.Template.Acceptance
import Stencil.Proofs.Template.Agreement
import Stencil.Proofs.Text.Replace

/-!
# Quoted arguments

A text in quotes reaches a filter as it was, whatever is in it: `compile_quoted` says so for the
filters of configured values that take texts. On its way the text is read four times. The scan
passes over it, the grammar reads it as a literal, the commas in it separate no arguments, and the
quotes are taken off again.
-/

namespace Stencil

open Body (CallTree IsIdent IsKey IsQuote Stretch VariableTree argumentText callsText)

namespace Body

/-- A text that is read as one identifier is an identifier. -/
theorem isIdent_of_ident? {s : Text} (h : ident? s = some (s, [])) : IsIdent s :=
  (ident?_eq_some h).1

/-- A part of an argument that shows neither a backslash nor a brace. -/
def Stretch.Quiet (p : Stretch) : Prop :=
  ∀ c, some c ∈ p.exposed → c ≠ '\\' ∧ c ≠ '}'

/-- A character that is neither of them is quiet. -/
theorem Stretch.quiet_bare {c : Char} (h : c ≠ '\\' ∧ c ≠ '}') : (Stretch.bare c).Quiet := by
  intro d hd
  cases List.mem_singleton.1 hd
  exact h

/-- A quoted literal is quiet, whatever is in it. -/
theorem Stretch.quiet_literal (q : Char) (s : Text) : (Argument.literal q s).Quiet := by
  intro c hc
  obtain ⟨d, -, hd⟩ := List.mem_map.1 hc
  cases hd

/-- Two literals are quiet, and so is what is between them. -/
theorem Stretch.quiet_literals (q : Char) (s : Text) (q' : Char) (t : Text) :
    ∀ p ∈ Argument.literals q s q' t, p.Quiet := by
  simpa [Argument.literals] using ⟨quiet_literal q s, quiet_bare (by decide),
    quiet_bare (by decide), quiet_literal q' t⟩

end Body

namespace Values

/-! ## Configured values with a filter -/

/-- The body of a token for a configured value with one filter call. -/
def filteredBody (key name argument : Text) : Text :=
  "$config.".toList ++ (key ++ ':' :: (name ++ '(' :: (argument ++ [')'])))

/-- The tree of such a body. -/
def filteredTree (key name : Text) (parts : List Stretch) : VariableTree :=
  ⟨"config".toList, some key, [⟨name, some parts⟩], none⟩

/-- The tree derives the body. -/
theorem text_filteredTree (key name : Text) (parts : List Stretch) :
    (filteredTree key name parts).text = filteredBody key name (argumentText parts) := by
  have hcalls : callsText [⟨name, some parts⟩]
      = ':' :: (name ++ '(' :: (argumentText parts ++ [')'])) := by
    simp [callsText, CallTree.text]
  have hfront : ∀ rest : Text, '$' :: ("config".toList ++ '.' :: rest)
      = "$config.".toList ++ rest := fun _ => rfl
  calc (filteredTree key name parts).text
      = '$' :: ("config".toList ++ '.' :: key ++ callsText [⟨name, some parts⟩] ++ []) := rfl
    _ = '$' :: ("config".toList ++ '.' :: (key ++ callsText [⟨name, some parts⟩])) := by
        rw [List.append_nil, List.append_assoc, List.cons_append]
    _ = filteredBody key name (argumentText parts) := by
        rw [hfront, hcalls]
        rfl

/-- The grammar accepts the body if it does so with its parts. -/
theorem valid_filteredTree {key name : Text} (hkey : IsKey key) (hname : IsIdent name)
    {parts : List Stretch} (hparts : ∀ p ∈ parts, p.Valid) :
    (filteredTree key name parts).Valid := by
  refine ⟨Body.isIdent_of_ident? rfl, ?_, ?_⟩
  · rintro k ⟨⟩
    exact hkey
  · intro c hc
    cases List.mem_singleton.1 hc
    refine ⟨hname, ?_⟩
    rintro ps ⟨⟩
    exact hparts

/-- The body delimits itself if neither its key nor its argument can mislead the scan. -/
theorem selfDelimiting_filteredTree {key : Text} (hesc : '\\' ∉ key) (name : Text)
    {parts : List Stretch} (hparts : ∀ p ∈ parts, p.Valid) (hquiet : ∀ p ∈ parts, p.Quiet) :
    (filteredTree key name parts).variable.SelfDelimiting := by
  have hexposed := Body.exposed_argumentText hparts
  have hshown : ∀ c, some c ∈ parts.flatMap Stretch.exposed → c ≠ '\\' ∧ c ≠ '}' := by
    intro c hc
    obtain ⟨p, hp, hcp⟩ := List.mem_flatMap.1 hc
    exact hquiet p hp c hcp
  constructor
  case key_escape => exact hesc
  case arg_escape =>
    intro call hcall arg harg
    cases List.mem_singleton.1 hcall
    cases harg
    rw [hexposed]
    exact fun h => (hshown '\\' h).1 rfl
  case arg_braces =>
    intro call hcall arg harg hin
    cases List.mem_singleton.1 hcall
    cases harg
    rw [hexposed] at hin
    exact (hshown '}' (hin.subset List.mem_cons_self)).2 rfl
  case fallback_braces => rintro literal ⟨⟩
  case fallback_end => rintro literal ⟨⟩

end Values

namespace Resolver

variable {r : Resolver} {world : World} {values : List (Text × Text)} {key v : Text}

/-- A configured value is settled to what the filters make of it. -/
theorem settled_of_value {p : Placeholder} {x : Variable} (hbody : p.body = .lookup x)
    (hconfig : r.registry.get? x.typeName = some (Values.provider values))
    (hv : values.lookup x.key = some v) :
    r.Settled world p
      ⟨p.raw, some x.typeName, choose (Values.provider values) (r.context world)
        ⟨p.raw, x.typeName, x.key, x.filters, x.fallback⟩ none [.text v], none, 1⟩ := by
  intro calls
  have hdiscover : (Values.provider values).discover (r.context world)
      (calls.count x.typeName) x.key = .found [.text v] := by
    show Discovery.found (Values.discover values x.key) = _
    rw [Values.discover, hv]
    rfl
  rw [result?, attempt, hbody]
  simp only [hconfig, hdiscover]
  rfl

/-- A text that a filter makes of a configured value is the value. -/
theorem choose_filtered {context : Context} {q : Request} {call : FilterCall} {filter : Filter}
    {error : Option Text} {found : List Candidate} {out : Text} (hcalls : q.filters = [call])
    (hfilter : (Values.provider values).filter? call.name = some filter)
    (hout : filter found call.arg = .ok [.text out]) :
    choose (Values.provider values) context q error found = .discovered out [] := by
  have happly : applyFilters (Values.provider values) q q.filters found = .ok [.text out] := by
    rw [hcalls, applyFilters, hfilter]
    simp only [hout]
    rfl
  rw [choose, happly]
  rfl

/-- A configured value with a filter is compiled to what the filter makes of the value. -/
theorem document?_filtered (hwords : r.words = [])
    (hconfig : r.registry.get? "config".toList = some (Values.provider values)) (hkey : IsKey key)
    (hesc : '\\' ∉ key) (hv : values.lookup key = some v) {name : Text} (hname : IsIdent name)
    {filter : Filter} (hfilter : (Values.provider values).filter? name = some filter)
    {parts : List Stretch} (hparts : ∀ p ∈ parts, p.Valid) (hquiet : ∀ p ∈ parts, p.Quiet)
    {out : Text} (hout : filter [.text v] (some (argumentText parts)) = .ok [.text out])
    (calls : Calls) :
    r.document? world calls (Token.braced (Values.filteredBody key name (argumentText parts)))
      = some out := by
  have htree := Values.valid_filteredTree hkey hname hparts
  have hself := Values.selfDelimiting_filteredTree hesc name hparts hquiet
  have hbody : (Placeholder.parse (Token.braced (Values.filteredTree key name parts).text)).body
      = .lookup (Values.filteredTree key name parts).variable := by
    rw [Placeholder.parse, Placeholder.inner_braced, Body.parse_of_valid htree]
  have hsettled : r.Settled world _ _ := settled_of_value hbody hconfig hv
  rw [choose_filtered rfl hfilter hout] at hsettled
  rw [← Values.text_filteredTree]
  exact document?_token hwords (Body.closes_of_selfDelimiting htree hself) hsettled calls

/-! ## Texts in quotes -/

/-- Texts in quotes reach the filters of a configured value as they were, whatever is in them: the
text behind the value or before it is the text in quotes, and what is replaced, and by what, are the
two texts in quotes. -/
theorem compile_quoted (hwords : r.words = [])
    (hconfig : r.registry.get? "config".toList = some (Values.provider values)) (hkey : IsKey key)
    (hesc : '\\' ∉ key) (hv : values.lookup key = some v) (world : World) (calls : Calls) :
    let output (name argument : Text) : Option Text :=
      r.document? world calls (Token.braced (Values.filteredBody key name argument))
    (∀ q, IsQuote q → ∀ s, output "suffix".toList (Argument.quoted q s) = some (v ++ s) ∧
      output "prefix".toList (Argument.quoted q s) = some (s ++ v)) ∧
    ∀ q q', IsQuote q → IsQuote q' → ∀ pattern, pattern ≠ [] → ∀ value,
      ∃ out, Text.Replaced pattern value v out ∧
        output "replace".toList
          (Argument.quoted q pattern ++ ", ".toList ++ Argument.quoted q' value) = some out := by
  intro output
  constructor
  · intro q hq s
    have hparts : ∀ p ∈ [Argument.literal q s], p.Valid := by
      simpa using Argument.valid_literal hq s
    have hquiet : ∀ p ∈ [Argument.literal q s], p.Quiet := by
      simpa using Stretch.quiet_literal q s
    have htext : argumentText [Argument.literal q s] = Argument.quoted q s := by
      rw [argumentText, List.flatMap_singleton, Argument.text_literal]
    have hfilter : ∀ {name : Text} {filter : Filter} {out : Text}, IsIdent name →
        (Values.provider values).filter? name = some filter →
        filter [.text v] (some (Argument.quoted q s)) = .ok [.text out] →
        output name (Argument.quoted q s) = some out := by
      intro name filter out hname hfilter hout
      rw [← htext] at hout ⊢
      exact document?_filtered hwords hconfig hkey hesc hv hname hfilter hparts hquiet hout calls
    constructor
    · exact hfilter (Body.isIdent_of_ident? rfl) rfl (TextFilter.behind_quoted hq v s)
    · exact hfilter (Body.isIdent_of_ident? rfl) rfl (TextFilter.before_quoted hq v s)
  · intro q q' hq hq' pattern hpattern value
    refine ⟨Text.replace pattern value v, (Text.replace_eq_iff hpattern).1 rfl, ?_⟩
    have hout := TextFilter.replace_quoted hq hq' hpattern value v
    rw [← Argument.text_literals] at hout ⊢
    exact document?_filtered hwords hconfig hkey hesc hv (Body.isIdent_of_ident? rfl) rfl
      (Argument.valid_literals hq pattern hq' value)
      (Stretch.quiet_literals q pattern q' value) hout calls

/-- The command line gives the type `config` the provider of the configured values. -/
theorem get?_registry_config (c : Config) :
    (CommandLine.registry c).get? "config".toList = some (Values.provider c.values) :=
  rfl

/-- A configuration with a value under a key with a quote. -/
def quotedConfig : Config :=
  { values := [("it's".toList, "a, b".toList)] }

/-- A quote, a parenthesis, a backslash and closing braces reach the filters, and so does a comma
that is replaced by a backslash. -/
theorem compile_quoted_stray_marks :
    let r : Resolver := { registry := CommandLine.registry quotedConfig, root := ⟨['.']⟩ }
    let world : World := ⟨⟨.empty, []⟩, ⟨[]⟩, ⟨0, 0, 0⟩⟩
    r.words = [] ∧
      r.registry.get? "config".toList = some (Values.provider quotedConfig.values) ∧
      IsKey "it's".toList ∧ '\\' ∉ "it's".toList ∧
      quotedConfig.values.lookup "it's".toList = some "a, b".toList ∧
      r.document? world [] "\x7b\x7b$config.it's:suffix('\\') \\\\\x7d\x7d')\x7d\x7d".toList
        = some "a, b') \\\x7d\x7d".toList ∧
      ∃ out, Text.Replaced [','] ['\\'] "a, b".toList out ∧
        r.document? world [] "\x7b\x7b$config.it's:replace(\",\", '\\\\')\x7d\x7d".toList
          = some out := by
  intro r world
  have hkey : IsKey "it's".toList := ⟨by decide, List.all_eq_true.1 rfl⟩
  have hesc : '\\' ∉ "it's".toList := by decide
  have hv : quotedConfig.values.lookup "it's".toList = some "a, b".toList := rfl
  obtain ⟨hadded, hreplaced⟩ := compile_quoted (r := r) rfl (get?_registry_config quotedConfig) hkey
    hesc hv world []
  have hsuffix := (hadded '\'' (.inr rfl) "') \\\x7d\x7d".toList).1
  obtain ⟨out, hout, hreplace⟩ := hreplaced '"' '\'' (.inl rfl) (.inr rfl) [','] (by simp) ['\\']
  have hsuffixText : Token.braced (Values.filteredBody "it's".toList "suffix".toList
      (Argument.quoted '\'' "') \\\x7d\x7d".toList))
        = "\x7b\x7b$config.it's:suffix('\\') \\\\\x7d\x7d')\x7d\x7d".toList := by decide
  have hreplaceText : Token.braced (Values.filteredBody "it's".toList "replace".toList
      (Argument.quoted '"' [','] ++ ", ".toList ++ Argument.quoted '\'' ['\\']))
        = "\x7b\x7b$config.it's:replace(\",\", '\\\\')\x7d\x7d".toList := by decide
  rw [← hsuffixText, ← hreplaceText]
  exact ⟨rfl, get?_registry_config quotedConfig, hkey, hesc, hv, hsuffix, out, hout, hreplace⟩

end Resolver

end Stencil
