import PortMapping.Configuration.Validation
import PortMapping.Firewall.Script
import PortMapping.Proofs.AddressText
import PortMapping.Proofs.RuleConsistency

/-!
# Filter scripts

What the filter program reads in a script: lines that line breaks end, and words that single
blanks separate.  A usable table name is a word, as are addresses and ports, so a script says
what it was written to say and nothing else, and two scripts that are the same were written for
the same table and the same rules.
-/

namespace PortMapping

/-! ## Lines and words -/

namespace Text

/-- The lines of a text, if each of them is ended by a line break. -/
def lines? (text : List Char) : Option (List (List Char)) :=
  let pieces := text.splitOn '\n'
  if pieces.getLast? = some [] then some pieces.dropLast else none

/-- The words of a line, between single blanks. -/
def words (line : List Char) : List String := (line.splitOn ' ').map String.ofList

/-- The line that words make. -/
def lineOf (words : List String) : List Char := [' '].intercalate (words.map String.toList)

/-- Whether a text can stand in a line as a word. -/
def IsWord (word : String) : Prop := ' ' ∉ word.toList ∧ '\n' ∉ word.toList

instance (word : String) : Decidable (IsWord word) := inferInstanceAs (Decidable (_ ∧ _))

theorem toList_blank : " ".toList = [' '] := rfl

theorem toList_lineBreak : "\n".toList = ['\n'] := rfl

theorem splitOn_flatMap {lines : List (List Char)} (unbroken : ∀ line ∈ lines, '\n' ∉ line) :
    (lines.flatMap (· ++ ['\n'])).splitOn '\n' = lines ++ [[]] := by
  induction lines with
  | nil => rfl
  | cons line lines ih =>
      rw [List.flatMap_cons, List.append_assoc, List.singleton_append,
        List.splitOn_append_cons_self_of_not_mem (unbroken line List.mem_cons_self),
        ih fun later member => unbroken later (List.mem_cons_of_mem line member)]
      rfl

/-- Lines without line breaks of their own are told apart. -/
theorem lines?_flatMap {lines : List (List Char)} (unbroken : ∀ line ∈ lines, '\n' ∉ line) :
    lines? (lines.flatMap (· ++ ['\n'])) = some lines := by
  rw [lines?, splitOn_flatMap unbroken]
  simp

/-- So are words without blanks of their own. -/
theorem words_lineOf {words : List String} (some : words ≠ [])
    (areWords : ∀ word ∈ words, IsWord word) : Text.words (lineOf words) = words := by
  have plain : ∀ chars ∈ words.map String.toList, ' ' ∉ chars := by
    intro chars member
    rcases List.mem_map.mp member with ⟨word, present, rfl⟩
    exact (areWords word present).1
  have nonempty : words.map String.toList ≠ [] := by simpa using some
  rw [Text.words, lineOf, List.splitOn_intercalate ' ' plain nonempty, List.map_map]
  simp [Function.comp_def]

theorem lineOf_cons_cons (first second : String) (rest : List String) :
    lineOf (first :: second :: rest) = first.toList ++ ' ' :: lineOf (second :: rest) := by
  rw [lineOf, List.map_cons, List.map_cons, List.intercalate_cons_cons, List.append_assoc]
  rfl

/-- A line of words does not break. -/
theorem not_mem_lineOf {words : List String} (areWords : ∀ word ∈ words, IsWord word) :
    '\n' ∉ lineOf words := by
  induction words with
  | nil => simp [lineOf]
  | cons first rest ih =>
      have unbroken := (areWords first List.mem_cons_self).2
      have later := ih fun word member => areWords word (List.mem_cons_of_mem first member)
      cases rest with
      | nil => simpa [lineOf] using unbroken
      | cons second rest =>
          rw [lineOf_cons_cons]
          simp [unbroken, later]

end Text

/-! ## What can stand as a word -/

theorem isWord_of_isTableName {name : String} (named : isTableName name = true) :
    Text.IsWord name := by
  rw [isTableName, Bool.and_eq_true, List.all_eq_true] at named
  constructor
  · intro blank
    exact absurd (named.2 ' ' blank) (by decide)
  · intro lineBreak
    exact absurd (named.2 '\n' lineBreak) (by decide)

theorem isWord_decimal (number : Nat) : Text.IsWord (toString number) := by
  rw [Nat.toString_eq_ofList_toDigits, Text.IsWord, String.toList_ofList]
  exact ⟨Text.not_mem_decimal rfl number, Text.not_mem_decimal rfl number⟩

theorem isWord_address (address : Ipv4) : Text.IsWord address.text := by
  rw [Ipv4.text, Text.IsWord, String.toList_ofList]
  exact ⟨Ipv4.not_mem_chars rfl (by decide) address, Ipv4.not_mem_chars rfl (by decide) address⟩

theorem isWord_endpoint (endpoint : Endpoint4) : Text.IsWord endpoint.text := by
  rw [Endpoint4.text, Text.IsWord, String.toList_ofList]
  exact ⟨Endpoint4.not_mem_chars rfl (by decide) (by decide) endpoint,
    Endpoint4.not_mem_chars rfl (by decide) (by decide) endpoint⟩

theorem isWord_keyword (transport : Transport) : Text.IsWord transport.keyword := by
  cases transport with
  | tcp => decide
  | udp => decide

theorem Transport.keyword_injective : Function.Injective Transport.keyword := by
  intro left right same
  cases left with
  | tcp =>
      cases right with
      | tcp => rfl
      | udp => exact absurd same (by decide)
  | udp =>
      cases right with
      | tcp => exact absurd same (by decide)
      | udp => rfl

/-! ## The words of a script -/

namespace ScriptFilter

/-- The lines before the rules, in words. -/
def headerWords (table : String) : List (List String) :=
  [["add", "table", "ip", table],
    ["add", "chain", "ip", table, "prerouting", "\x7b", "type", "nat", "hook", "prerouting",
      "priority", "-100;", "policy", "accept;", "\x7d"],
    ["flush", "chain", "ip", table, "prerouting"]]

/-- The line of a rule, in words. -/
def ruleWords (table : String) (rule : RedirectRule) : List String :=
  ["add", "rule", "ip", table, "prerouting", "ip", "daddr", rule.external.address.text,
    rule.transport.keyword, "dport", toString rule.external.port.toNat, "dnat", "to",
    rule.internal.text]

/-- The lines of a script, in words. -/
def scriptWords (table : String) (rules : List RedirectRule) : List (List String) :=
  headerWords table ++ rules.map (ruleWords table)

/-- The text that lines of words make. -/
def linesOf (lines : List (List String)) : List Char :=
  lines.flatMap fun words => Text.lineOf words ++ ['\n']

theorem toList_chain : chain.toList = "prerouting".toList := rfl

theorem toList_header (table : String) :
    (header table).toList = linesOf (headerWords table) := by
  -- The constants of the text, word by word.
  have addTable : "add table ip ".toList =
      "add".toList ++ ' ' :: ("table".toList ++ ' ' :: ("ip".toList ++ [' '])) := rfl
  have addChain : "add chain ip ".toList =
      "add".toList ++ ' ' :: ("chain".toList ++ ' ' :: ("ip".toList ++ [' '])) := rfl
  have hook : " \x7b type nat hook prerouting priority -100; policy accept; \x7d\n".toList =
      ' ' :: ("\x7b".toList ++ ' ' :: ("type".toList ++ ' ' :: ("nat".toList ++
        ' ' :: ("hook".toList ++ ' ' :: ("prerouting".toList ++ ' ' :: ("priority".toList ++
          ' ' :: ("-100;".toList ++ ' ' :: ("policy".toList ++ ' ' :: ("accept;".toList ++
            ' ' :: ("\x7d".toList ++ ['\n'])))))))))) := rfl
  have flush : "flush chain ip ".toList =
      "flush".toList ++ ' ' :: ("chain".toList ++ ' ' :: ("ip".toList ++ [' '])) := rfl
  -- Unfolding by the equation of the definition would spell the constants out.
  delta header
  simp only [String.toList_append, addTable, addChain, hook, flush, Text.toList_blank,
    Text.toList_lineBreak, toList_chain]
  simp only [linesOf, headerWords, List.flatMap_cons, List.flatMap_nil, Text.lineOf,
    List.map_cons, List.map_nil, List.intercalate_cons_cons, List.intercalate_singleton]
  simp only [List.append_assoc, List.cons_append, List.nil_append, List.append_nil]

theorem toList_ruleLine (table : String) (rule : RedirectRule) :
    (ruleLine table rule).toList = Text.lineOf (ruleWords table rule) ++ ['\n'] := by
  have addRule : "add rule ip ".toList =
      "add".toList ++ ' ' :: ("rule".toList ++ ' ' :: ("ip".toList ++ [' '])) := rfl
  have daddr : " ip daddr ".toList =
      ' ' :: ("ip".toList ++ ' ' :: ("daddr".toList ++ [' '])) := rfl
  have dport : " dport ".toList = ' ' :: ("dport".toList ++ [' ']) := rfl
  have dnat : " dnat to ".toList =
      ' ' :: ("dnat".toList ++ ' ' :: ("to".toList ++ [' '])) := rfl
  delta ruleLine
  simp only [String.toList_append, addRule, daddr, dport, dnat, Text.toList_blank,
    Text.toList_lineBreak, toList_chain]
  simp only [ruleWords, Text.lineOf, List.map_cons, List.map_nil, List.intercalate_cons_cons,
    List.intercalate_singleton]
  simp only [List.append_assoc, List.cons_append, List.nil_append]

theorem toList_foldl_ruleLine (table script : String) (rules : List RedirectRule) :
    (rules.foldl (fun script rule => script ++ ruleLine table rule) script).toList =
      script.toList ++ linesOf (rules.map (ruleWords table)) := by
  induction rules generalizing script with
  | nil => simp [linesOf]
  | cons rule rules ih =>
      rw [List.foldl_cons, ih, String.toList_append, toList_ruleLine, List.map_cons, linesOf,
        linesOf, List.flatMap_cons, List.append_assoc]

/-- A script consists of its lines, and they of their words. -/
theorem toList_installScript (table : String) (rules : List RedirectRule) :
    (installScript table rules).toList = linesOf (scriptWords table rules) := by
  rw [installScript, toList_foldl_ruleLine, toList_header, scriptWords, linesOf, linesOf, linesOf,
    List.flatMap_append]

/-! ## Reading a script back -/

section Usable

variable {table : String} (named : isTableName table = true)
include named

theorem isWord_of_mem_headerWords :
    ∀ line ∈ headerWords table, line ≠ [] ∧ ∀ word ∈ line, Text.IsWord word := by
  have tableWord := isWord_of_isTableName named
  simp only [headerWords, List.forall_mem_cons, tableWord, ne_eq, reduceCtorEq,
    not_false_eq_true, true_and]
  decide

theorem isWord_of_mem_ruleWords (rule : RedirectRule) :
    ∀ word ∈ ruleWords table rule, Text.IsWord word := by
  have tableWord := isWord_of_isTableName named
  simp only [ruleWords, List.forall_mem_cons, tableWord, isWord_address, isWord_keyword,
    isWord_decimal, isWord_endpoint, true_and]
  decide

/-- A script is made of words alone, whatever rules it installs. -/
theorem isWord_of_mem_scriptWords (rules : List RedirectRule) :
    ∀ line ∈ scriptWords table rules, line ≠ [] ∧ ∀ word ∈ line, Text.IsWord word := by
  intro line member
  rcases List.mem_append.mp member with header | added
  · exact isWord_of_mem_headerWords named line header
  · rcases List.mem_map.mp added with ⟨rule, _, rfl⟩
    exact ⟨nofun, isWord_of_mem_ruleWords named rule⟩

theorem lines?_installScript (rules : List RedirectRule) :
    Text.lines? (installScript table rules).toList =
      some ((scriptWords table rules).map Text.lineOf) := by
  have areWords := isWord_of_mem_scriptWords named rules
  have unbroken : ∀ line ∈ (scriptWords table rules).map Text.lineOf, '\n' ∉ line := by
    intro line member
    rcases List.mem_map.mp member with ⟨words, present, rfl⟩
    exact Text.not_mem_lineOf (areWords words present).2
  rw [toList_installScript, linesOf, ← Text.lines?_flatMap unbroken, List.flatMap_map]

theorem words_lineOf_scriptWords (rules : List RedirectRule) :
    ((scriptWords table rules).map Text.lineOf).map Text.words = scriptWords table rules := by
  have areWords := isWord_of_mem_scriptWords named rules
  have readBack : ∀ line ∈ scriptWords table rules,
      (Text.words ∘ Text.lineOf) line = id line := by
    intro line member
    exact Text.words_lineOf (areWords line member).1 (areWords line member).2
  rw [List.map_map, List.map_congr_left readBack, List.map_id]

end Usable

/-- A rule is known by its words. -/
theorem ruleWords_injective (table : String) : Function.Injective (ruleWords table) := by
  intro left right same
  simp only [ruleWords, List.cons.injEq, Ipv4.text_injective.eq_iff,
    Transport.keyword_injective.eq_iff, Endpoint4.text_injective.eq_iff,
    Nat.toString_eq_ofList_toDigits, String.ofList_inj, true_and, and_true] at same
  rcases same with ⟨address, transport, port, internal⟩
  have samePort := UInt16.toNat_inj.mp (Text.decimal_injective port)
  rcases left with ⟨_, ⟨_, _⟩, _⟩
  rcases right with ⟨_, ⟨_, _⟩, _⟩
  simp only at address transport samePort internal
  rw [address, transport, samePort, internal]

/-- So are a table and a list of rules. -/
theorem scriptWords_injective {left right : String} {leftRules rightRules : List RedirectRule}
    (same : scriptWords left leftRules = scriptWords right rightRules) :
    left = right ∧ leftRules = rightRules := by
  simp only [scriptWords, headerWords, List.cons_append, List.nil_append, List.cons.injEq,
    true_and, and_true] at same
  rcases same with ⟨rfl, _, _, rules⟩
  constructor
  · rfl
  · exact (List.map_inj_right fun _ _ same => ruleWords_injective left same).mp rules

/-- Scripts for usable tables are the same only where tables and rules are. -/
theorem installScript_inj {left right : String} {leftRules rightRules : List RedirectRule}
    (leftNamed : isTableName left = true) (rightNamed : isTableName right = true)
    (same : installScript left leftRules = installScript right rightRules) :
    left = right ∧ leftRules = rightRules := by
  have lines := lines?_installScript leftNamed leftRules
  rw [same, lines?_installScript rightNamed rightRules, Option.some_inj] at lines
  have words := congrArg (List.map Text.words) lines
  rw [words_lineOf_scriptWords rightNamed, words_lineOf_scriptWords leftNamed] at words
  exact scriptWords_injective words.symm

/-! ## Writing a script -/

theorem addRules_of_script {filter : ScriptFilter} {script : String}
    (writing : filter.script = some script) (rules : List RedirectRule) :
    (Synchronizer.addRules filter rules).value =
      let later := rules.foldl (fun script rule => script ++ ruleLine filter.table rule) script
      ⟨none, { filter with script := some later }⟩ := by
  induction rules generalizing filter script with
  | nil =>
      simp only [List.foldl_nil, ← writing]
      rfl
  | cons rule rules ih =>
      have added : (Backend.addRedirect filter rule).value =
          ⟨.ok (), { filter with script := some (script ++ ruleLine filter.table rule) }⟩ := by
        have call : (Backend.addRedirect filter rule).value = filter.addRedirect rule := rfl
        rw [call, addRedirect, writing]
      have accepted : (Backend.addRedirect filter rule).value.outcome = .ok () := by rw [added]
      rw [Synchronizer.addRules_of_ok accepted, added]
      exact ih rfl

/-- A filter opens a transaction and takes rules, refusing none, and has then written a
script. -/
structure Writes (filter : ScriptFilter) (rules : List RedirectRule) (script : String) :
    Prop where
  opened : (Backend.openTransaction filter).value.outcome = .ok ()
  added : (Synchronizer.addRules (Backend.openTransaction filter).value.backend rules).value =
    ⟨none, { filter with script := some script }⟩

theorem writes_iff {filter : ScriptFilter} {rules : List RedirectRule} {script : String} :
    filter.Writes rules script ↔ script = installScript filter.table rules := by
  have added : (Synchronizer.addRules (Backend.openTransaction filter).value.backend rules).value =
      ⟨none, { filter with script := some (installScript filter.table rules) }⟩ :=
    addRules_of_script rfl rules
  constructor
  · intro writes
    have same := writes.added
    rw [added] at same
    injection same with _ same
    injection same with _ _ same
    exact (Option.some.inj same).symm
  · rintro rfl
    exact ⟨rfl, added⟩

end ScriptFilter

/-! ## Scripts of usable configurations -/

theorem Configuration.isTableName_of_validate {configuration : Configuration}
    (usable : configuration.validate = .ok ()) :
    isTableName configuration.firewall.table = true := by
  rw [validate] at usable
  split at usable
  · cases usable
  · split at usable
    · cases usable
    · split at usable
      · cases usable
      · split at usable
        next named => exact named
        · cases usable

namespace ScriptFilter

/-- Under a usable configuration the filter writes a script for any rules.  It has three lines
more than there are rules, each ended by a line break; the line of a rule falls into fourteen
words at its single blanks; and only the same rules for the same table have the same script. -/
theorem script_of_rules {configuration : Configuration}
    (usable : configuration.validate = .ok ()) {filter : ScriptFilter}
    (owned : filter.table = configuration.firewall.table) (rules : List RedirectRule) :
    ∃ script lines, filter.Writes rules script ∧
      Text.lines? script.toList = some lines ∧ lines.length = 3 + rules.length ∧
      (lines.drop 3).map Text.words = rules.map (ruleWords filter.table) ∧
      ∀ (other : Configuration) (otherFilter : ScriptFilter) (otherRules : List RedirectRule),
        other.validate = .ok () → otherFilter.table = other.firewall.table →
        otherFilter.Writes otherRules script →
          otherFilter.table = filter.table ∧ otherRules = rules := by
  have named := configuration.isTableName_of_validate usable
  rw [← owned] at named
  refine ⟨installScript filter.table rules, (scriptWords filter.table rules).map Text.lineOf,
    writes_iff.mpr rfl, lines?_installScript named rules, ?_, ?_, ?_⟩
  · rw [List.length_map, scriptWords, List.length_append, List.length_map]
    rfl
  · rw [List.map_drop, words_lineOf_scriptWords named]
    rfl
  · intro other otherFilter otherRules otherUsable otherOwned writes
    have otherNamed := other.isTableName_of_validate otherUsable
    rw [← otherOwned] at otherNamed
    exact installScript_inj otherNamed named (writes_iff.mp writes).symm

/-- A usable configuration with every sort of character in the name of its table. -/
def hyphenated : Configuration :=
  { interface := "em0", listen := ["[::]:0", " 0.0.0.0 "], firewall := { table := "-9_aZ" } }

/-- Two rules under that configuration: they are read back word by word, and over the default
table no rules whatever make the same script. -/
theorem script_of_hyphenated :
    hyphenated.validate = .ok () ∧
      ∃ script lines,
        Writes { table := "-9_aZ" }
          [⟨.tcp, ⟨⟨192, 0, 2, 1⟩, 0⟩, ⟨⟨10, 0, 0, 7⟩, 65535⟩⟩,
            ⟨.udp, ⟨⟨192, 0, 2, 1⟩, 5351⟩, ⟨⟨10, 0, 0, 8⟩, 22⟩⟩] script ∧
        Text.lines? script.toList = some lines ∧ lines.length = 5 ∧
        (lines.drop 3).map Text.words =
          [["add", "rule", "ip", "-9_aZ", "prerouting", "ip", "daddr", "192.0.2.1", "tcp",
              "dport", "0", "dnat", "to", "10.0.0.7:65535"],
            ["add", "rule", "ip", "-9_aZ", "prerouting", "ip", "daddr", "192.0.2.1", "udp",
              "dport", "5351", "dnat", "to", "10.0.0.8:22"]] ∧
        ∀ rules, ¬Writes { table := "natpmpd" } rules script := by
  have usable : hyphenated.validate = .ok () := rfl
  rcases script_of_rules usable (rfl : ScriptFilter.table { table := "-9_aZ" } = _)
      [⟨.tcp, ⟨⟨192, 0, 2, 1⟩, 0⟩, ⟨⟨10, 0, 0, 7⟩, 65535⟩⟩,
        ⟨.udp, ⟨⟨192, 0, 2, 1⟩, 5351⟩, ⟨⟨10, 0, 0, 8⟩, 22⟩⟩] with
    ⟨script, lines, writes, read, count, words, unambiguous⟩
  refine ⟨usable, script, lines, writes, read, count, words.trans rfl, ?_⟩
  intro rules alsoWrites
  have same := unambiguous { interface := "em0", listen := ["0.0.0.0"] } { table := "natpmpd" }
    rules rfl rfl alsoWrites
  exact absurd same.1 (by decide)

end ScriptFilter

end PortMapping
