import AdbWide.Clients.Qualifiers
import AdbWide.Handler.Payload
import AdbWide.Sockets.Online

/-!
# The banner of a device

The daemon writes its type and three of its properties into the text of an `A_CNXN` packet, and the
host takes them out again.
-/

namespace AdbWide
namespace Handler

open Clients (Cursor)
open Sockets (ConnectionState Server maxPayload)
open Sockets.Server (ascii cString)

/-! ## The code of the daemon -/

/-- `cnxn_props`. -/
def cnxnProps : List String := ["ro.product.name", "ro.product.model", "ro.product.device"]

/-- `snprintf` into what remains of a buffer. -/
def printAt {size : Nat} (cursor : Cursor size) (text : List UInt8) :
    Except Fault (Cursor size) := do
  let out := Formatted.c99 cursor.remaining text
  let block ← cursor.block.put cursor.buf out.written
  let len := unsigned out.length
  .ok { block, buf := cursor.buf + len, remaining := unsigned (cursor.remaining - len) }

/-- A property as `fill_connect_data` writes it. -/
def propertyText (property : String → List UInt8) (name : String) : List UInt8 :=
  ascii name ++ ascii "=" ++ property name ++ ascii ";"

/-- The loop of `fill_connect_data`. -/
def fillProps {size : Nat} (property : String → List UInt8) :
    List String → Cursor size → Except Fault (Cursor size)
  | [], cursor => .ok cursor
  | name :: names, cursor => do
      let cursor ← printAt cursor (propertyText property name)
      fillProps property names cursor

/-- `fill_connect_data` of the daemon: the buffer, and what it returns. -/
def fillConnectBuffer {size : Nat} (world : Surroundings) (buf : Block UInt8 size)
    (bufsize : Nat) : Except Fault (Block UInt8 size × Nat) := do
  let cursor ← printAt ⟨buf, 0, bufsize⟩ (world.deviceBanner ++ ascii "::")
  let cursor ← fillProps world.property cnxnProps cursor
  .ok (cursor.block, unsigned (bufsize - cursor.remaining + 1))

/-! ## What is in the buffer -/

section Buffer

variable {size : Nat} {cursor : Cursor size} {before text : List UInt8}

/-- A text and its terminator have been printed at the start of the buffer. -/
structure Printed (cursor : Cursor size) (text : List UInt8) : Prop where
  cells : cursor.block.segment 0 (text ++ [0]).length = text ++ [0]
  buf : cursor.buf = text.length
  remaining : cursor.remaining = size - text.length

/-- What is printed next stands behind it. -/
theorem printAt_behind (text : List UInt8) (shown : cursor.block.segment 0 before.length = before)
    (buf : cursor.buf = before.length) (remaining : cursor.remaining = size - before.length)
    (fits : (before ++ text).length < size) (small : size < 2 ^ 32) :
    ∃ after, printAt cursor text = .ok after ∧ Printed after (before ++ text) := by
  rw [List.length_append] at fits
  have short : text.length < cursor.remaining := by omega
  obtain ⟨stored, stores, grown⟩ := cursor.block.put_eq_ok before.length (text ++ [0])
    (by rw [List.length_append, List.length_singleton]; omega)
  have len : unsigned text.length = text.length := unsigned_natCast (by omega)
  refine ⟨_, by
    simp only [printAt, Formatted.c99_of_lt short, Formatted.whole, buf, stores, ok_bind]
    rfl, ?_, ?_, ?_⟩
  · rw [shown, ← List.append_assoc, ← List.length_append, ← List.append_assoc] at grown
    exact grown
  · simp only [len, List.length_append]
    omega
  · simp only [len, List.length_append]
    rw [unsigned_sub (by omega) (by omega)]
    omega

theorem Printed.shown (printed : Printed cursor text) :
    cursor.block.segment 0 text.length = text :=
  (cursor.block.segment_of_append printed.cells).1

theorem fillProps_printed (property : String → List UInt8) (names : List String)
    (printed : Printed cursor before)
    (fits : (before ++ names.flatMap (propertyText property)).length < size)
    (small : size < 2 ^ 32) :
    ∃ after, fillProps property names cursor = .ok after ∧
      Printed after (before ++ names.flatMap (propertyText property)) := by
  induction names generalizing cursor before with
  | nil => exact ⟨cursor, rfl, by simpa using printed⟩
  | cons name names induction =>
      rw [List.flatMap_cons, ← List.append_assoc] at fits ⊢
      have shorter : (before ++ propertyText property name).length < size := by
        rw [List.length_append] at fits
        omega
      obtain ⟨middle, prints, printed'⟩ := printAt_behind (propertyText property name)
        printed.shown printed.buf printed.remaining shorter small
      obtain ⟨after, fills, printed''⟩ := induction printed' fits
      refine ⟨after, ?_, printed''⟩
      rw [fillProps, prints, ok_bind, fills]

/-- The daemon fills the buffer with its banner, when that fits. -/
theorem fillConnectBuffer_eq (world : Surroundings) (buf : Block UInt8 size) (auth : Bool)
    (fits : (fillConnectData world (.device auth)).length ≤ size) (small : size < 2 ^ 32) :
    ∃ filled len, fillConnectBuffer world buf size = .ok (filled, len) ∧
      filled.cells.take len = fillConnectData world (.device auth) := by
  have text_eq : fillConnectData world (.device auth) =
      world.deviceBanner ++ ascii "::" ++ cnxnProps.flatMap (propertyText world.property) ++
        [0] := by
    simp [fillConnectData, cnxnProps, propertyText]
  rw [text_eq, List.length_append, List.length_singleton] at fits
  have start : (⟨buf, 0, size⟩ : Cursor size).block.segment 0 ([] : List UInt8).length = [] := rfl
  have shorter : ([] ++ (world.deviceBanner ++ ascii "::")).length < size := by
    rw [List.nil_append]
    rw [List.length_append] at fits
    omega
  obtain ⟨head, prints, printed⟩ := printAt_behind (world.deviceBanner ++ ascii "::") start rfl rfl
    shorter small
  obtain ⟨after, fills, printed⟩ := fillProps_printed world.property cnxnProps printed fits small
  refine ⟨after.block, unsigned (size - after.remaining + 1), ?_, ?_⟩
  · rw [fillConnectBuffer, prints, ok_bind, fills, ok_bind]
  · rw [List.nil_append] at printed
    rw [text_eq]
    generalize world.deviceBanner ++ ascii "::" ++ cnxnProps.flatMap (propertyText world.property) =
      text at fits printed
    have count : unsigned (size - after.remaining + 1) = (text ++ [0]).length := by
      rw [printed.remaining, List.length_append, List.length_singleton, unsigned]
      omega
    rw [count]
    exact printed.cells

end Buffer

/-! ## What the host makes of it -/

/-- The types a daemon gives itself. -/
inductive BannerType where
  | device
  | recovery
  | bootloader
  | sideload
  deriving DecidableEq, Repr

/-- The type in the banner. -/
def BannerType.text : BannerType → List UInt8
  | .device => ascii "device"
  | .recovery => ascii "recovery"
  | .bootloader => ascii "bootloader"
  | .sideload => ascii "sideload"

/-- The state of a transport to a device of this type. -/
def BannerType.state : BannerType → ConnectionState
  | .device => .device
  | .recovery => .recovery
  | .bootloader => .bootloader
  | .sideload => .sideload

/-- What `property_get` may give, without the character that ends a property. -/
structure PropertyValue (value : List UInt8) : Prop where
  short : value.length ≤ 91
  terminated : 0 ∉ value
  separated : 59 ∉ value

theorem BannerType.text_facts (type : BannerType) :
    type.text.length ≤ 10 ∧ 0 ∉ type.text ∧ 58 ∉ type.text := by
  cases type <;> with_unfolding_all decide

theorem cnxnProps_facts : ∀ name ∈ cnxnProps, (ascii name).length ≤ 17 ∧ 0 ∉ ascii name ∧
    59 ∉ ascii name ∧ 61 ∉ ascii name := by
  with_unfolding_all decide

/-- A word and a semicolon are a token. -/
theorem strtokLoop_word {word : List UInt8} (plain : 59 ∉ word) (nonempty : word ≠ [])
    (rest : List UInt8) : strtokLoop [] (word ++ 59 :: rest) = word :: strtokLoop [] rest := by
  have last := @strtokLoop_last [] word plain (by simpa using nonempty)
  rw [strtokLoop_append, last, List.nil_append, List.singleton_append]

/-- The tokens of the properties are their names and values. -/
theorem strtokLoop_properties {property : String → List UInt8} {names : List String}
    (plain : ∀ name ∈ names, 59 ∉ ascii name ∧ 59 ∉ property name) :
    strtokLoop [] (names.flatMap (propertyText property)) =
      names.map fun name => ascii name ++ 61 :: property name := by
  induction names with
  | nil => rfl
  | cons name names induction =>
      obtain ⟨plain_name, plain_value⟩ := plain name List.mem_cons_self
      have shape : propertyText property name = ascii name ++ 61 :: property name ++ [59] := by
        have signs : ascii "=" = [61] ∧ ascii ";" = [59] := by with_unfolding_all decide
        simp [propertyText, signs]
      rw [List.flatMap_cons, shape, List.append_assoc, List.singleton_append,
        strtokLoop_word (by simp [plain_name, plain_value]) (by simp), List.map_cons,
        induction fun other member => plain other (List.mem_cons_of_mem _ member)]

/-- The value of a property is what is behind the first equals sign. -/
theorem setProperty_cases (identity : Identity) {key : List UInt8} (absent : 61 ∉ key)
    (value : List UInt8) : identity.setProperty (key ++ 61 :: value) =
      if key = ascii "ro.product.name" then { identity with product := qualOverwrite value }
      else if key = ascii "ro.product.model" then { identity with model := qualOverwrite value }
      else if key = ascii "ro.product.device" then { identity with device := qualOverwrite value }
      else identity := by
  obtain ⟨front, behind⟩ := takeWhile_ne_append absent value
  rw [Identity.setProperty, behind]
  dsimp only
  rw [front]

/-- The three properties, one after the other. -/
theorem foldl_setProperty (property : String → List UInt8) (identity : Identity) :
    (cnxnProps.map fun name => ascii name ++ 61 :: property name).foldl Identity.setProperty
        identity =
      { identity with
        product := qualOverwrite (property "ro.product.name")
        model := qualOverwrite (property "ro.product.model")
        device := qualOverwrite (property "ro.product.device") } := by
  have plain := fun name member => (cnxnProps_facts name member).2.2.2
  have name_ne : ascii "ro.product.model" ≠ ascii "ro.product.name" ∧
      ascii "ro.product.device" ≠ ascii "ro.product.name" ∧
        ascii "ro.product.device" ≠ ascii "ro.product.model" := by with_unfolding_all decide
  simp only [cnxnProps, List.map_cons, List.map_nil, List.foldl_cons, List.foldl_nil]
  rw [setProperty_cases _ (plain "ro.product.name" (by simp [cnxnProps])), if_pos rfl,
    setProperty_cases _ (plain "ro.product.model" (by simp [cnxnProps])), if_neg name_ne.1,
    if_pos rfl, setProperty_cases _ (plain "ro.product.device" (by simp [cnxnProps])),
    if_neg name_ne.2.1, if_neg name_ne.2.2, if_pos rfl]

/-! ## The round trip -/

section RoundTrip

variable {world : Surroundings} {type : BannerType}

/-- The banner of a daemon: its type, two colons, and the properties. -/
theorem fillConnectData_eq (auth : Bool) (banner : world.deviceBanner = type.text) :
    fillConnectData world (.device auth) =
      type.text ++ 58 :: ([] ++ 58 :: cnxnProps.flatMap (propertyText world.property)) ++ [0] := by
  have colons : ascii "::" = [58, 58] := by with_unfolding_all decide
  simp [fillConnectData, cnxnProps, propertyText, banner, colons]

theorem length_propertyText {property : String → List UInt8} {name : String}
    (member : name ∈ cnxnProps) (valid : PropertyValue (property name)) :
    (propertyText property name).length ≤ 110 := by
  have name_short := (cnxnProps_facts name member).1
  have value_short := valid.short
  have signs : (ascii "=").length = 1 ∧ (ascii ";").length = 1 := by with_unfolding_all decide
  simp only [propertyText, List.length_append, signs.1, signs.2]
  omega

theorem fillConnectData_short (auth : Bool) (banner : world.deviceBanner = type.text)
    (valid : ∀ name ∈ cnxnProps, PropertyValue (world.property name)) :
    (fillConnectData world (.device auth)).length ≤ 343 := by
  have short := fun name member => length_propertyText member (valid name member)
  have type_short := type.text_facts.1
  have name := short "ro.product.name" (by simp [cnxnProps])
  have model := short "ro.product.model" (by simp [cnxnProps])
  have device := short "ro.product.device" (by simp [cnxnProps])
  rw [fillConnectData_eq auth banner]
  simp only [cnxnProps, List.flatMap_cons, List.flatMap_nil, List.append_nil, List.nil_append,
    List.length_append, List.length_cons, List.length_nil]
  omega

/-- The string in the packet is all of the banner. -/
theorem cString_fillConnectData (auth : Bool) (banner : world.deviceBanner = type.text)
    (valid : ∀ name ∈ cnxnProps, PropertyValue (world.property name)) :
    cString (fillConnectData world (.device auth)) =
      type.text ++ 58 :: ([] ++ 58 :: cnxnProps.flatMap (propertyText world.property)) := by
  have absent : 0 ∉ type.text ++
      58 :: ([] ++ 58 :: cnxnProps.flatMap (propertyText world.property)) := by
    have signs : 0 ∉ ascii "=" ∧ 0 ∉ ascii ";" := by with_unfolding_all decide
    have plain : ∀ name ∈ cnxnProps, 0 ∉ propertyText world.property name := by
      intro name member
      simp [propertyText, signs, (cnxnProps_facts name member).2.1, (valid name member).terminated]
    simp only [List.nil_append, List.mem_append, List.mem_cons, List.mem_flatMap, not_or,
      not_exists, not_and]
    exact ⟨type.text_facts.2.1, by decide, by decide, plain⟩
  rw [fillConnectData_eq auth banner, cString, (takeWhile_ne_append absent []).1]

/-- The host sets the state of a transport by the type in the banner. -/
theorem connectionState_parseBanner (server : Server) (t : Nat) (deviceList : List UInt8)
    {banner : List UInt8} (named : (cString banner).takeWhile (· ≠ 58) = type.text) :
    ((server.parseBanner t banner deviceList).transports t).connectionState = type.state := by
  have states : (server.parseBanner t banner deviceList).statuses =
      (server.modifyTransport t fun state => { state with connectionState := type.state }).statuses
      := by
    rw [Server.parseBanner, named]
    cases type with
    | bootloader => simp [BannerType.text, BannerType.state]
    | device =>
        have other : ascii "device" ≠ ascii "bootloader" := by with_unfolding_all decide
        simp [BannerType.text, BannerType.state, other]
    | recovery =>
        have others : ascii "recovery" ≠ ascii "bootloader" ∧
            ascii "recovery" ≠ ascii "device" := by with_unfolding_all decide
        simp [BannerType.text, BannerType.state, others]
    | sideload =>
        have others : ascii "sideload" ≠ ascii "bootloader" ∧ ascii "sideload" ≠ ascii "device" ∧
            ascii "sideload" ≠ ascii "recovery" := by with_unfolding_all decide
        simp [BannerType.text, BannerType.state, others]
  have state := congrArg Prod.snd (congrFun states t)
  simpa [Server.statuses, Server.modifyTransport] using state

/-- What is known of a property; nothing of an empty one. -/
def given (value : List UInt8) : Option (List UInt8) := if value = [] then none else some value

/-- The host takes out of the banner what the daemon has put into it, whatever it knew before. -/
theorem parseBanner_fillConnectBuffer (world hostWorld : Surroundings) (type : BannerType)
    (banner : world.deviceBanner = type.text)
    (valid : ∀ name ∈ cnxnProps, PropertyValue (world.property name))
    (buf : Block UInt8 maxPayload) (node : Node) (t : Nat) :
    ∃ filled len, fillConnectBuffer world buf maxPayload = .ok (filled, len) ∧
      let after := node.parseBanner .host hostWorld t (filled.cells.take len)
      (after.server.transports t).connectionState = type.state ∧
        (after.identities t).product = given (world.property "ro.product.name") ∧
          (after.identities t).model = given (world.property "ro.product.model") ∧
            (after.identities t).device = given (world.property "ro.product.device") := by
  have short := fillConnectData_short true banner valid
  obtain ⟨filled, len, fills, text_eq⟩ := fillConnectBuffer_eq world buf true
    (Nat.le_trans short (by decide)) (by decide)
  refine ⟨filled, len, fills, ?_⟩
  dsimp only
  have whole := cString_fillConnectData true banner valid
  have type_plain := type.text_facts.2.2
  constructor
  · refine connectionState_parseBanner _ t _ ?_
    rw [text_eq, whole, (takeWhile_ne_append type_plain _).1]
  · have plain : ∀ name ∈ cnxnProps, 59 ∉ ascii name ∧ 59 ∉ world.property name :=
      fun name member => ⟨(cnxnProps_facts name member).2.2.1, (valid name member).separated⟩
    have parsed : (node.identities t).parseBanner (fillConnectData world (.device true)) =
        (strtokLoop [] (cnxnProps.flatMap (propertyText world.property))).foldl
          Identity.setProperty (node.identities t) := by
      rw [Identity.parseBanner, whole, afterColon_append type_plain, Option.bind_some,
        afterColon_append (by simp)]
    rw [identities_parseBanner, text_eq, parsed, strtokLoop_properties plain, foldl_setProperty]
    exact ⟨rfl, rfl, rfl⟩

/-- A daemon in recovery mode whose model has the signs of the banner in its name. -/
def recoveringWorld : Surroundings where
  property := fun name => if name = "ro.product.model" then ascii "a:b=c" else []
  deviceBanner := ascii "recovery"

theorem parseBanner_fillConnectBuffer_recovering :
    ∃ filled len, fillConnectBuffer recoveringWorld (Block.zeros maxPayload) maxPayload =
        .ok (filled, len) ∧
      let after := Node.start.parseBanner .host {} 0 (filled.cells.take len)
      (after.server.transports 0).connectionState = .recovery ∧
        (after.identities 0).product = none ∧ (after.identities 0).model = some (ascii "a:b=c") ∧
          (after.identities 0).device = none := by
  have values : given (recoveringWorld.property "ro.product.name") = none ∧
      given (recoveringWorld.property "ro.product.model") = some (ascii "a:b=c") ∧
        given (recoveringWorld.property "ro.product.device") = none := by with_unfolding_all decide
  have valid : ∀ name ∈ cnxnProps, PropertyValue (recoveringWorld.property name) := by
    intro name _
    by_cases model : name = "ro.product.model"
    · have value : recoveringWorld.property name = ascii "a:b=c" := if_pos model
      rw [value]
      constructor <;> with_unfolding_all decide
    · have value : recoveringWorld.property name = [] := if_neg model
      rw [value]
      constructor <;> simp
  have parsed := parseBanner_fillConnectBuffer recoveringWorld {} .recovery rfl valid
    (Block.zeros maxPayload) Node.start 0
  simpa only [values, BannerType.state] using parsed

end RoundTrip

end Handler
end AdbWide
