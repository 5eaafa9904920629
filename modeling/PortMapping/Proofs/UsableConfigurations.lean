import Mathlib.Data.List.Forall2
import Mathlib.Data.List.TakeWhile
import PortMapping.Startup
import PortMapping.Proofs.ListenAddresses

/-!
# Usable configurations

What makes a configuration usable is said without its check: of the four conditions, the first
that fails is the one reported, and of the listen addresses the first bad one.  The listen
addresses are read once when a configuration is checked and again when the gateway starts, and
the second reading cannot fail where the first did not.
-/

namespace PortMapping

open Text

/-! ## Lists read item by item -/

section

variable {α β ε : Type} {image : α → Except ε β} {items : List α} {images : List β}

theorem mapM_of_forall₂
    (found : List.Forall₂ (fun item value => image item = .ok value) items images) :
    items.mapM image = .ok images := by
  induction found with
  | nil => rfl
  | cons first _ ih =>
      rw [List.mapM_cons, first, ih]
      rfl

/-- The first item that has no image decides the error. -/
theorem mapM_of_first_error {item : α} {error : ε}
    (found : List.Forall₂ (fun item value => image item = .ok value) items images)
    (refused : image item = .error error) (later : List α) :
    (items ++ item :: later).mapM image = .error error := by
  rw [List.mapM_append, mapM_of_forall₂ found, List.mapM_cons, refused]
  rfl

end

/-! ## Blanks and names -/

theorem Text.toList_trim (text : String) : (trim text).toList = trimChars text.toList :=
  String.toList_ofList

/-- Nothing but blanks is cut off. -/
theorem Text.trimChars_eq_nil_iff {text : List Char} :
    trimChars text = [] ↔ ∀ character ∈ text, isBlank character = true := by
  rw [trimChars, List.reverse_eq_nil_iff, List.dropWhile_eq_nil_iff]
  simp only [List.mem_reverse]
  constructor
  · intro blank character member
    rw [← List.takeWhile_append_dropWhile (p := isBlank) (l := text), List.mem_append] at member
    rcases member with front | rest
    · exact List.mem_takeWhile_imp front
    · exact blank character rest
  · intro blank character member
    exact blank character ((List.dropWhile_sublist isBlank).mem member)

/-- Whether a character is an ASCII letter or digit, an underscore or a hyphen. -/
def IsNameChar (character : Char) : Prop :=
  ('A' ≤ character ∧ character ≤ 'Z') ∨ ('a' ≤ character ∧ character ≤ 'z') ∨
    ('0' ≤ character ∧ character ≤ '9') ∨ character = '_' ∨ character = '-'

instance (character : Char) : Decidable (IsNameChar character) :=
  inferInstanceAs (Decidable (_ ∨ _))

theorem isTableChar_iff {character : Char} :
    isTableChar character = true ↔ IsNameChar character := by
  have kinds : isTableChar character =
      (decide ('A' ≤ character ∧ character ≤ 'Z') ||
        (decide ('a' ≤ character) && decide (character ≤ 'z')) ||
        (decide ('0' ≤ character) && decide (character ≤ '9')) ||
        decide (character = '_') || decide (character = '-')) := rfl
  simp only [kinds, IsNameChar, Bool.or_eq_true, Bool.and_eq_true, decide_eq_true_eq, or_assoc]

theorem isTableName_iff {name : String} :
    isTableName name = true ↔ name ≠ "" ∧ ∀ character ∈ name.toList, IsNameChar character := by
  simp only [isTableName, Bool.and_eq_true, Bool.not_eq_true', List.isEmpty_eq_false_iff,
    List.all_eq_true, isTableChar_iff, ne_eq, String.toList_eq_nil_iff]

/-! ## What a listen address names -/

/-- What a listen address names, blanks around it set aside: an endpoint as it is written, or at
the server's port if it is written with port zero or without a port. -/
inductive Names (entry : String) : Endpoint → Prop where
  | endpoint {endpoint : Endpoint} (written : Endpoint.parse? (trim entry) = some endpoint)
      (port : endpoint.port ≠ 0) : Names entry endpoint
  | portZero {endpoint : Endpoint} (written : Endpoint.parse? (trim entry) = some endpoint)
      (port : endpoint.port = 0) : Names entry (endpoint.withPort 5351)
  | address {address : IpAddress} (written : IpAddress.parse? (trim entry) = some address) :
      Names entry (Endpoint.ofAddress address 5351)

/-- Whether a listen address is an endpoint or an address, blanks around it set aside. -/
def Listenable (entry : String) : Prop :=
  (Endpoint.parse? (trim entry)).isSome ∨ (IpAddress.parse? (trim entry)).isSome

instance (entry : String) : Decidable (Listenable entry) := inferInstanceAs (Decidable (_ ∨ _))

theorem Endpoint.port_withPort (endpoint : Endpoint) (port : UInt16) :
    (endpoint.withPort port).port = port := by
  cases endpoint <;> rfl

namespace Names

variable {entry : String} {endpoint : Endpoint}

theorem port_ne_zero (names : Names entry endpoint) : endpoint.port ≠ 0 := by
  cases names with
  | endpoint _ port => exact port
  | portZero =>
      rw [Endpoint.port_withPort]
      decide
  | address =>
      rw [Endpoint.port_ofAddress]
      decide

theorem parseListenAddress (names : Names entry endpoint) :
    parseListenAddress entry = .ok endpoint := by
  rw [parseListenAddress_eq_ok_iff, ← toList_trim]
  cases names with
  | endpoint written port =>
      rw [listenEndpoint?_of_endpoint written, if_neg port]
  | portZero written port =>
      rw [listenEndpoint?_of_endpoint written, if_pos port]
      rfl
  | address written => exact listenEndpoint?_of_address written

end Names

theorem parseListenAddress_of_not_listenable {entry : String} (refused : ¬Listenable entry) :
    parseListenAddress entry = .error (.invalidListenAddress (trim entry)) := by
  rw [Listenable, not_or, Option.not_isSome_iff_eq_none, Option.not_isSome_iff_eq_none,
    Endpoint.parse?, IpAddress.parse?, toList_trim] at refused
  have unnamed : listenEndpoint? (trimChars entry.toList) = none := by
    rw [listenEndpoint?, refused.1, refused.2]
    rfl
  unfold parseListenAddress
  dsimp only
  rw [unnamed]
  rfl

theorem Listenable.exists_names {entry : String} (listenable : Listenable entry) :
    ∃ endpoint, Names entry endpoint := by
  rcases listenable with written | written
  · rcases Option.isSome_iff_exists.mp written with ⟨endpoint, written⟩
    by_cases port : endpoint.port = 0
    · exact ⟨_, .portZero written port⟩
    · exact ⟨_, .endpoint written port⟩
  · rcases Option.isSome_iff_exists.mp written with ⟨address, written⟩
    exact ⟨_, .address written⟩

theorem exists_forall₂_names {entries : List String}
    (listenable : ∀ entry ∈ entries, Listenable entry) :
    ∃ endpoints, List.Forall₂ Names entries endpoints := by
  induction entries with
  | nil => exact ⟨[], .nil⟩
  | cons entry entries ih =>
      rcases (listenable entry List.mem_cons_self).exists_names with ⟨endpoint, names⟩
      rcases ih fun later member => listenable later (List.mem_cons_of_mem entry member) with
        ⟨endpoints, rest⟩
      exact ⟨endpoint :: endpoints, .cons names rest⟩

theorem ports_ne_zero {entries : List String} {endpoints : List Endpoint}
    (names : List.Forall₂ Names entries endpoints) : ∀ endpoint ∈ endpoints, endpoint.port ≠ 0 := by
  induction names with
  | nil => nofun
  | cons first _ ih =>
      intro endpoint member
      rcases List.mem_cons.mp member with rfl | later
      · exact first.port_ne_zero
      · exact ih endpoint later

namespace Configuration

/-! ## Usable configurations -/

/-- Whether an interface is named: whether there is a character that is no blank. -/
def NamesInterface (configuration : Configuration) : Prop :=
  ∃ character ∈ configuration.interface.toList, isBlank character = false

/-- Whether the table has a name that can stand in a script. -/
def NamesTable (configuration : Configuration) : Prop :=
  configuration.firewall.table ≠ "" ∧
    ∀ character ∈ configuration.firewall.table.toList, IsNameChar character

/-- A configuration that the gateway can start with. -/
structure Usable (configuration : Configuration) : Prop where
  interface : configuration.NamesInterface
  some : configuration.listen ≠ []
  listenable : ∀ entry ∈ configuration.listen, Listenable entry
  table : configuration.NamesTable

/-- The first thing wrong with a configuration: what comes before it is as it should be. -/
inductive FirstOffence (configuration : Configuration) : ConfigurationError → Prop where
  | interface (blank : ¬configuration.NamesInterface) : FirstOffence configuration .emptyInterface
  | listen (interface : configuration.NamesInterface) (none : configuration.listen = []) :
      FirstOffence configuration .noListenAddress
  | address (interface : configuration.NamesInterface) {before later : List String}
      {entry : String} (split : configuration.listen = before ++ entry :: later)
      (listenable : ∀ entry ∈ before, Listenable entry) (refused : ¬Listenable entry) :
      FirstOffence configuration (.invalidListenAddress (trim entry))
  | table (interface : configuration.NamesInterface) (some : configuration.listen ≠ [])
      (listenable : ∀ entry ∈ configuration.listen, Listenable entry)
      (refused : ¬configuration.NamesTable) :
      FirstOffence configuration (.invalidTable configuration.firewall.table)

variable {configuration : Configuration} {error : ConfigurationError}

/-- Either all is well with a configuration, or there is a first thing that is not. -/
theorem usable_or_offence (configuration : Configuration) :
    configuration.Usable ∨ ∃ error, configuration.FirstOffence error := by
  by_cases interface : configuration.NamesInterface
  case neg => exact .inr ⟨_, .interface interface⟩
  by_cases none : configuration.listen = []
  case pos => exact .inr ⟨_, .listen interface none⟩
  cases found : configuration.listen.find? (¬Listenable ·) with
  | some entry =>
      rcases List.find?_eq_some_iff_append.mp found with ⟨refused, before, later, split, good⟩
      refine .inr ⟨_, .address interface split ?_ (of_decide_eq_true refused)⟩
      intro entry member
      simpa using good entry member
  | none =>
      have listenable : ∀ entry ∈ configuration.listen, Listenable entry := by
        simpa using found
      by_cases table : configuration.NamesTable
      · exact .inl ⟨interface, none, listenable, table⟩
      · exact .inr ⟨_, .table interface none listenable table⟩

theorem isEmpty_trimChars_interface_iff :
    (trimChars configuration.interface.toList).isEmpty = true ↔
      ¬configuration.NamesInterface := by
  rw [List.isEmpty_iff, trimChars_eq_nil_iff, NamesInterface]
  simp

theorem NamesInterface.not_isEmpty (interface : configuration.NamesInterface) :
    ¬(trimChars configuration.interface.toList).isEmpty = true := fun blank =>
  isEmpty_trimChars_interface_iff.mp blank interface

/-- The names of the listen addresses are what is read. -/
theorem listenEndpoints_of_names {endpoints : List Endpoint}
    (names : List.Forall₂ Names configuration.listen endpoints) :
    configuration.listenEndpoints = .ok endpoints :=
  mapM_of_forall₂ (names.imp fun _ _ => Names.parseListenAddress)

theorem Usable.exists_names (usable : configuration.Usable) :
    ∃ endpoints, configuration.listenEndpoints = .ok endpoints ∧
      List.Forall₂ Names configuration.listen endpoints := by
  rcases exists_forall₂_names usable.listenable with ⟨endpoints, names⟩
  exact ⟨endpoints, listenEndpoints_of_names names, names⟩

/-- With an interface and listen addresses, what these are and then the table decide. -/
theorem validate_eq_bind (interface : configuration.NamesInterface)
    (some : configuration.listen ≠ []) :
    configuration.validate = configuration.listenEndpoints.bind fun _ =>
      if isTableName configuration.firewall.table then .ok ()
      else .error (.invalidTable configuration.firewall.table) := by
  rw [validate, if_neg interface.not_isEmpty, if_neg (mt List.isEmpty_iff.mp some)]
  cases configuration.listenEndpoints <;> rfl

theorem Usable.validate (usable : configuration.Usable) : configuration.validate = .ok () := by
  rcases usable.exists_names with ⟨endpoints, read, _⟩
  rw [validate_eq_bind usable.interface usable.some, read]
  exact if_pos (isTableName_iff.mpr usable.table)

theorem FirstOffence.validate (offence : configuration.FirstOffence error) :
    configuration.validate = .error error := by
  cases offence with
  | interface blank =>
      exact if_pos (isEmpty_trimChars_interface_iff.mpr blank)
  | listen interface none =>
      rw [Configuration.validate, if_neg interface.not_isEmpty, if_pos (List.isEmpty_iff.mpr none)]
  | @address interface before later entry split listenable refused =>
      have some : configuration.listen ≠ [] := by
        rw [split]
        exact List.append_ne_nil_of_right_ne_nil _ (List.cons_ne_nil _ _)
      rcases exists_forall₂_names listenable with ⟨endpoints, names⟩
      have failed : configuration.listenEndpoints =
          .error (.invalidListenAddress (trim entry)) := by
        rw [listenEndpoints, split]
        exact mapM_of_first_error (names.imp fun _ _ => Names.parseListenAddress)
          (parseListenAddress_of_not_listenable refused) later
      rw [validate_eq_bind interface some, failed]
      rfl
  | table interface some listenable refused =>
      rcases exists_forall₂_names listenable with ⟨endpoints, names⟩
      rw [validate_eq_bind interface some, listenEndpoints_of_names names]
      exact if_neg (mt isTableName_iff.mp refused)

theorem validate_eq_ok_iff : configuration.validate = .ok () ↔ configuration.Usable := by
  constructor
  · intro accepted
    rcases configuration.usable_or_offence with usable | ⟨error, offence⟩
    · exact usable
    · rw [offence.validate] at accepted
      cases accepted
  · exact Usable.validate

theorem validate_eq_error_iff :
    configuration.validate = .error error ↔ configuration.FirstOffence error := by
  constructor
  · intro refused
    rcases configuration.usable_or_offence with usable | ⟨other, offence⟩
    · rw [usable.validate] at refused
      cases refused
    · rw [offence.validate] at refused
      cases refused
      exact offence
  · exact FirstOffence.validate

/-- Whatever reads the document, what it is parsed as has passed the check. -/
theorem validate_of_parse {ε : Type} [ToString ε] {reader : String → Except ε Configuration}
    {document : String} (parsed : parse reader document = .ok configuration) :
    configuration.validate = .ok () := by
  rw [parse] at parsed
  split at parsed
  · cases parsed
  next found _ =>
    cases validated : found.validate with
    | error error =>
        rw [validated] at parsed
        cases parsed
    | ok done =>
        rw [validated] at parsed
        cases parsed
        exact validated

end Configuration

/-! ## Starting the gateway -/

section

variable {β σ : Type} [Backend β]

theorem Server.start_result_ne (server : Server β σ) (error : ConfigurationError) :
    server.start.value.result ≠ .error (.configuration error) := by
  simp only [start, Logged.value_bind]
  split
  · nofun
  · simp only [synchronize, Logged.value_bind, Logged.value_pure]
    generalize Except.map _ _ = outcome
    cases outcome <;> nofun

/-- Where the listen addresses can be read, only the packet filter decides whether the gateway
starts. -/
theorem value_prepare {configuration : Configuration} {endpoints : List Endpoint}
    (read : configuration.listenEndpoints = .ok endpoints) (backend : β) (source : σ)
    (ports : PortSource) (now : Int) :
    let monitor : Monitor σ := ⟨configuration.interface, source⟩
    let started := (Server.new ⟨backend, commitRetryDelay⟩ monitor now ports).start.value
    (prepare backend source configuration ports now).value =
      started.result.map fun _ => ⟨started.server, endpoints⟩ := by
  intro monitor started
  simp only [prepare, read, Logged.value_bind]
  split
  next error failed =>
    have refused : started.result = .error error := failed
    rw [refused]
    rfl
  next succeeded =>
    have accepted : started.result = .ok () := succeeded
    rw [accepted]
    rfl

/-- Then the gateway does not fail on its configuration. -/
theorem prepare_value_ne {configuration : Configuration} {endpoints : List Endpoint}
    (read : configuration.listenEndpoints = .ok endpoints) (backend : β) (source : σ)
    (ports : PortSource) (now : Int) (error : ConfigurationError) :
    (prepare backend source configuration ports now).value ≠ .error (.configuration error) := by
  have others := Server.start_result_ne
    (.new ⟨backend, commitRetryDelay⟩ ⟨configuration.interface, source⟩ now ports) error
  rw [value_prepare read backend source ports now]
  revert others
  generalize @Server.start β σ _ _ = started
  cases started.value.result with
  | error other =>
      intro others same
      cases same
      exact others rfl
  | ok done => nofun

end

/-- A configuration passes its check exactly if it is usable, and otherwise is refused for the
first thing wrong with it.  If it passes, every listen address names one endpoint, in the order of
the addresses and none with port zero.  So with a configuration that was read from a document,
whatever the reader, the packet filter and the source of addresses, the gateway starts as its
server does, with the endpoints that its configuration names, and never fails on these. -/
theorem Configuration.validated_usable :
    (∀ configuration : Configuration,
      configuration.validate = .ok () ↔ configuration.Usable) ∧
    (∀ (configuration : Configuration) error,
      configuration.validate = .error error ↔ configuration.FirstOffence error) ∧
    (∀ configuration : Configuration, configuration.validate = .ok () →
      ∃ endpoints, configuration.listenEndpoints = .ok endpoints ∧
        List.Forall₂ Names configuration.listen endpoints ∧
        ∀ endpoint ∈ endpoints, endpoint.port ≠ 0) ∧
    ∀ {ε : Type} [ToString ε] (reader : String → Except ε Configuration) document configuration,
      parse reader document = .ok configuration →
      ∃ endpoints, configuration.listenEndpoints = .ok endpoints ∧
        ∀ {β σ : Type} [Backend β] (backend : β) (source : σ) ports now,
          let monitor : Monitor σ := ⟨configuration.interface, source⟩
          let started := (Server.new ⟨backend, commitRetryDelay⟩ monitor now ports).start.value
          (prepare backend source configuration ports now).value =
              started.result.map (fun _ => ⟨started.server, endpoints⟩) ∧
            ∀ error, (prepare backend source configuration ports now).value ≠
              .error (.configuration error) := by
  refine ⟨fun _ => validate_eq_ok_iff, fun _ _ => validate_eq_error_iff, ?_, ?_⟩
  · intro configuration accepted
    rcases (validate_eq_ok_iff.mp accepted).exists_names with ⟨endpoints, read, names⟩
    refine ⟨endpoints, read, names, ?_⟩
    exact ports_ne_zero names
  · intro ε _ reader document configuration parsed
    rcases (validate_eq_ok_iff.mp (validate_of_parse parsed)).exists_names with
      ⟨endpoints, read, _⟩
    refine ⟨endpoints, read, ?_⟩
    intro β σ _ backend source ports now monitor started
    exact ⟨value_prepare read backend source ports now,
      prepare_value_ne read backend source ports now⟩

example :
    Configuration.validate
        { interface := "wan0", listen := ["192.0.2.1", " [::1]\t", "nowhere"] } =
      .error (.invalidListenAddress "[::1]") := by
  decide

end PortMapping
