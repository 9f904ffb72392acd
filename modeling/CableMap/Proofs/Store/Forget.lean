import CableMap.Proofs.Store.Cabling
import CableMap.Proofs.Store.Cascade
import CableMap.Proofs.Store.Reliable
import CableMap.Store.Forget

/-!
# What is forgotten

Arguments name one thing: a device by its address, a port by its MAC address, or with a peer the
link between two ports. If it is stored it goes, with what hangs on it and nothing else, and to
forget succeeds. In every other case to forget fails and leaves the store as it is: an argument may
be no MAC address, and what is named may not be there. So the outcome tells whether anything went,
and what was forgotten cannot be forgotten again.
-/
namespace CableMap

/-- A text that is an IPv4 address is no MAC address: all of it would be one octet. -/
theorem Mac.ofString_of_address {text : String} {address : Ipv4}
    (read : Ipv4.ofString? text = some address) :
    Mac.ofString text = .error (.invalidOctet text) := by
  have whole : text.toList = address.chars := Ipv4.ofChars?_eq_some_iff.mp read
  have dotted : '.' ∈ text.toList := whole ▸ address.dot_mem_chars
  have written : ∀ c ∈ text.toList, c = '.' ∨ c.isDigit = true := fun c inside =>
    Ipv4.mem_chars (whole ▸ inside)
  have noColon : ¬ text.toList.contains ':' = true := by
    rw [List.contains_iff_mem]
    intro inside
    rcases written ':' inside with mark | digit
    · exact absurd mark (by decide)
    · exact absurd digit (by decide)
  have noBlank : ∀ c ∈ text.toList, Text.isBlank c = false := by
    intro c inside
    rcases written c inside with rfl | digit
    · decide
    · exact Text.isBlank_of_isHexDigit (by simp [Text.isHexDigit, Text.hexDigit?, digit])
  have one : Text.words text.toList = [text.toList] := by
    have word : Text.words (text.toList ++ []) = text.toList :: Text.words [] :=
      Text.words_cons (List.ne_nil_of_mem dotted) noBlank (by simp)
    rwa [List.append_nil] at word
  have bad : Mac.isOctet text.toList = false := by
    rw [Bool.eq_false_iff]
    intro octet
    exact absurd ((Mac.digits_of_isOctet octet).2 '.' dotted) (by decide)
  rw [Mac.ofString, if_neg noColon, Mac.ofBlanks, one]
  simp [Mac.ofPieces, bad]

namespace Store

/-- What arguments name. -/
inductive Target
  /-- The device at an address. -/
  | device (address : Ipv4)
  /-- The port with a MAC address. -/
  | port (mac : Mac)
  /-- The link between the ports with two MAC addresses. -/
  | link (x y : Mac)

/-- The MAC address that an argument is, or why it is refused. -/
def macNamed (text : String) : Except ArgumentCause Mac := (Mac.ofString text).mapError (.notAMac text)

/-- What arguments name, or why one of them is refused. With a peer both are MAC addresses. -/
def Target.named (target : String) (peer? : Option String) : Except ArgumentCause Target :=
  match peer?, Ipv4.ofString? target with
  | some peer, _ => do pure (.link (← macNamed target) (← macNamed peer))
  | none, some address => .ok (.device address)
  | none, none => do pure (.port (← macNamed target))

/-- Two arguments name the link between the ports with two MAC addresses. -/
theorem Target.named_link (target peer : String) :
    Target.named target (some peer) =
      (do pure (.link (← macNamed target) (← macNamed peer))) := rfl

/-- A single argument that is an address names the device there. -/
theorem Target.named_device {target : String} {address : Ipv4}
    (read : Ipv4.ofString? target = some address) :
    Target.named target none = .ok (.device address) := by
  simp only [Target.named, read]

/-- A single argument that is no address names the port with a MAC address. -/
theorem Target.named_port {target : String} (read : Ipv4.ofString? target = none) :
    Target.named target none = (do pure (.port (← macNamed target))) := by
  simp only [Target.named, read]

/-- What is removed for some arguments. -/
def removal (target : String) (peer? : Option String) : StoreM Bool :=
  match peer?, Ipv4.ofString? target with
  | some peer, _ => forgetLink target peer
  | none, some address => forgetDevice address
  | none, none => do removePort (← macArgument target) .root

/-- To forget is to remove, which must not have been for nothing. -/
theorem forget_eq (target : String) (peer? : Option String) :
    forget target peer? = quietly (do
      createTables
      let removed ← removal target peer?
      unless removed do throw (.argument (.nothingToRemove target))) := by
  unfold forget removal
  cases peer? with
  | some peer => rfl
  | none =>
    cases Ipv4.ofString? target with
    | some address => rfl
    | none =>
      -- The address to remove is known before the removal begins.
      simp only [macArgument]
      cases Mac.ofString target <;> rfl

/-- What is named is stored. -/
def Target.Stored (store : Store) : Target → Prop
  | .device address => ∃ row ∈ store.deviceRows, row.cells.address = some (addressKey address)
  | .port mac => store.Stores mac
  | .link x y => store.Linked x y

/-- Of a store what is named is gone, with what hangs on it and nothing else. -/
def Target.Gone (before after : Store) : Target → Prop
  | .device address => ∃ row ∈ before.deviceRows, row.cells.address = some (addressKey address) ∧
    Cascaded before after (· = row) (·.cells.device = some row.id)
  | .port mac => ∃ row ∈ before.portRows, row.cells.mac = some (toString mac) ∧
    Cascaded before after (fun _ => false) (· = row)
  | .link x y => ∃ link, before.HasLink link x y ∧
    after = { before with links? := before.links?.map (·.delete (· = link)) }

/-- It makes no difference which port of a link comes first. -/
theorem HasLink.symm {store : Store} {link : Row LinkCells} {x y : Mac}
    (joined : store.HasLink link x y) : store.HasLink link y x := by
  obtain ⟨inside, a, aInside, b, bInside, aMac, bMac, ends⟩ := joined
  exact ⟨inside, b, bInside, a, aInside, bMac, aMac, ends.trans Sym2.eq_swap⟩

/-- Which of two linked ports is named first is no matter. -/
theorem Linked.symm {store : Store} {x y : Mac} (linked : store.Linked x y) : store.Linked y x :=
  linked.imp fun _ joined => joined.symm

/-- A link that is gone is gone whichever of its ends is named first. -/
theorem Target.Gone.symm {before after : Store} {x y : Mac}
    (gone : (Target.link x y).Gone before after) : (Target.link y x).Gone before after := by
  obtain ⟨link, joined, left⟩ := gone
  exact ⟨link, joined.symm, left⟩

/-- What to forget by some arguments does to a store. -/
structure Forgets (store : Store) (target : String) (peer? : Option String) : Prop where
  /-- It succeeds exactly if the store is not the same after it. -/
  changes : (result (forget target peer?) store).1.isOk ↔ after (forget target peer?) store ≠ store
  /-- If what is named is stored, that goes and nothing else. -/
  present : ∀ named, Target.named target peer? = .ok named → named.Stored store →
    ∃ later, result (forget target peer?) store = (.ok (), later) ∧ named.Gone store later
  /-- If what is named is not stored, it fails for that and leaves the store as it is. -/
  absent : ∀ named, Target.named target peer? = .ok named → ¬ named.Stored store →
    result (forget target peer?) store = (.error (.argument (.nothingToRemove target)), store)
  /-- If an argument is refused, it fails for that and leaves the store as it is. -/
  refused : ∀ cause, Target.named target peer? = .error cause →
    result (forget target peer?) store = (.error (.argument cause), store)
  /-- An address that is given with a peer is refused. -/
  addressed : ∀ address, Ipv4.ofString? target = some address → peer?.isSome →
    result (forget target peer?) store =
      (.error (.argument (.notAMac target (.invalidOctet target))), store)
  /-- However two MAC addresses are spelled and whichever comes first, the link between their ports
  goes if there is one. -/
  spelled : ∀ peer ∈ peer?, ∀ x y : Mac,
    x.Spells target ∧ y.Spells peer ∨ y.Spells target ∧ x.Spells peer →
      (store.Linked x y → ∃ later, result (forget target peer?) store = (.ok (), later) ∧
        (Target.link x y).Gone store later) ∧
      (¬ store.Linked x y → result (forget target peer?) store =
        (.error (.argument (.nothingToRemove target)), store))
  /-- What was forgotten cannot be forgotten again. -/
  again : ∀ later, result (forget target peer?) store = (.ok (), later) →
    result (forget target peer?) later =
      (.error (.argument (.nothingToRemove target)), later)

namespace Tables

variable {tables : Tables}

/-- Removing links leaves the ports where they are. -/
theorem portRow?_deleteLinks (chosen : Row LinkCells → Bool) (mac : Mac) :
    (tables.deleteLinks chosen).portRow? mac = tables.portRow? mac := rfl

/-! ## What the removal of a target comes to -/

/-- What a removal makes of sound tables, by what its arguments name. -/
inductive Comes (tables : Tables) (removal : StoreM Bool) : Except ArgumentCause Target → Prop
  /-- Where an argument is refused the removal fails and changes nothing. -/
  | refused {cause : ArgumentCause}
      (ended : result removal tables.store = (.error (.argument cause), tables.store)) :
      Comes tables removal (.error cause)
  /-- Where the target is not stored there is nothing to do. -/
  | absent {target : Target} (missing : ¬ target.Stored tables.store)
      (ended : result removal tables.store = (.ok false, tables.store)) :
      Comes tables removal (.ok target)
  /-- Where the target is stored it goes, so that it is not stored any more. -/
  | present {target : Target} (stored : target.Stored tables.store) (later : Tables)
      (sound : later.Sound) (ended : result removal tables.store = (.ok true, later.store))
      (gone : target.Gone tables.store later.store) (missing : ¬ target.Stored later.store) :
      Comes tables removal (.ok target)

/-- Removals that come to the same make the same of tables. -/
theorem Comes.of_result_eq {removal other : StoreM Bool} {named : Except ArgumentCause Target}
    (comes : tables.Comes other named)
    (same : result removal tables.store = result other tables.store) :
    tables.Comes removal named := by
  cases comes with
  | refused ended => exact .refused (same.trans ended)
  | absent missing ended => exact .absent missing (same.trans ended)
  | present stored later sound ended gone missing =>
    exact .present stored later sound (same.trans ended) gone missing

/-- A device is stored exactly if its row is found at its address. -/
theorem stored_device_iff {address : Ipv4} :
    (Target.device address).Stored tables.store ↔ tables.deviceRow? address ≠ none := by
  rw [ne_eq, deviceRow?, Table.rowAt?_eq_none_iff, not_forall]
  simp only [not_forall, ne_eq, not_not, exists_prop]
  rfl

/-- A port is stored exactly if its row is found under its MAC address. -/
theorem Sound.stored_port_iff (sound : tables.Sound) {mac : Mac} :
    (Target.port mac).Stored tables.store ↔ tables.portRow? mac ≠ none := by
  rw [← Option.isSome_iff_ne_none]
  exact sound.stores_store

/-- A link is stored exactly if its row is found between the ports. -/
theorem Sound.stored_link_iff (sound : tables.Sound) {x y : Mac} :
    (Target.link x y).Stored tables.store ↔ tables.linkBetween? x y ≠ none := by
  rw [← Option.isSome_iff_ne_none, Option.isSome_iff_exists]
  exact exists_congr fun link => sound.hasLink_store

/-- To remove a device removes what its address names. -/
theorem Sound.comes_device (sound : tables.Sound) (address : Ipv4) :
    tables.Comes (forgetDevice address) (.ok (.device address)) := by
  -- The device is read only to be shown.
  have removed : result (forgetDevice address) tables.store =
      result (removeDevice address .root) tables.store := by
    have read := (sound.readable.device address).2
    cases asked : tables.store.device? address with
    | error failure =>
      rw [asked] at read
      cases read
    | ok device? =>
      unfold forgetDevice
      rw [result_bind_ok (result_ask_ok asked)]
      cases device? with
      | none => rfl
      | some device => exact result_bind_ok (result_liftM _ _)
  refine Comes.of_result_eq ?_ removed
  cases found : tables.deviceRow? address with
  | none =>
    exact .absent (fun stored => stored_device_iff.mp stored found)
      (result_removeDevice_of_none found _)
  | some row =>
    obtain ⟨inside, own⟩ := sound.devices.rowAt?_eq_some_iff.1 found
    have gone : (tables.deleteDevice row.id).deviceRow? address = none :=
      sound.devices.rowAt?_delete_found found
    exact .present ⟨row, inside, own⟩ _ (sound.deleteDevice row.id)
      (result_removeDevice sound found _)
      ⟨row, inside, own, sound.cascaded_deleteDevice inside⟩
      fun stored => stored_device_iff.mp stored gone

/-- To remove a port removes what its MAC address names. -/
theorem Sound.comes_port (sound : tables.Sound) (mac : Mac) :
    tables.Comes (removePort mac .root) (.ok (.port mac)) := by
  cases found : tables.portRow? mac with
  | none =>
    exact .absent (fun stored => sound.stored_port_iff.mp stored found)
      (result_removePort_of_none found _)
  | some row =>
    obtain ⟨inside, own⟩ := sound.ports.rowAt?_eq_some_iff.1 found
    have later := sound.deletePorts (·.id = row.id)
    have gone : (tables.deletePorts (·.id = row.id)).portRow? mac = none :=
      sound.ports.rowAt?_delete_found found
    exact .present ⟨row, inside, own⟩ _ later (result_removePort found _)
      ⟨row, inside, own, sound.cascaded_deletePort inside⟩
      fun stored => later.stored_port_iff.mp stored gone

/-- An argument that is a MAC address is taken for it. -/
theorem result_macArgument_ok {text : String} {mac : Mac} (known : macNamed text = .ok mac)
    (store : Store) : result (macArgument text) store = (.ok mac, store) := by
  unfold macNamed at known
  unfold macArgument
  cases read : Mac.ofString text with
  | error error =>
    rw [read] at known
    cases known
  | ok own =>
    rw [read] at known
    rw [Except.ok.inj known]
    rfl

/-- An argument that is no MAC address is refused. -/
theorem result_macArgument_error {text : String} {cause : ArgumentCause}
    (known : macNamed text = .error cause) (store : Store) :
    result (macArgument text) store = (.error (.argument cause), store) := by
  unfold macNamed at known
  unfold macArgument
  cases read : Mac.ofString text with
  | error error =>
    rw [read] at known
    rw [← Except.error.inj known]
    rfl
  | ok own =>
    rw [read] at known
    cases known

/-- What two arguments that are MAC addresses remove is the link between their ports. -/
theorem result_forgetLink {target peer : String} {x y : Mac} (first : macNamed target = .ok x)
    (second : macNamed peer = .ok y) :
    result (forgetLink target peer) tables.store =
      match tables.portRow? x, tables.portRow? y with
      | some a, some b => result (unlink a.id b.id) tables.store
      | _, _ => (.ok false, tables.store) := by
  unfold forgetLink
  rw [result_bind_ok (result_macArgument_ok first _),
    result_bind_ok (result_ask_ok (portId?_store tables x)),
    result_bind_ok (result_macArgument_ok second _),
    result_bind_ok (result_ask_ok (portId?_store tables y))]
  cases tables.portRow? x with
  | none => rfl
  | some a => cases tables.portRow? y <;> rfl

/-- Where two ports are not linked nothing is removed. -/
theorem result_unlink_of_none {a b : Int} (absent : tables.linkRow? a b = none) :
    result (unlink a b) tables.store = (.ok false, tables.store) := by
  have apart : ∀ row ∈ tables.links.rows, ¬ LinkCells.joins a b row := by
    intro row inside
    rw [LinkCells.joins_eq, decide_eq_true_eq]
    exact Table.rowAt?_eq_none_iff.mp absent row inside
  have none : tables.links.count (LinkCells.joins a b) = 0 := List.countP_eq_zero.mpr apart
  have same : tables.deleteLinks (LinkCells.joins a b) = tables := by
    rw [deleteLinks, Table.delete_of_none apart]
  rw [result_unlink, none, same]
  rfl

/-- Where two ports are linked that link is removed. -/
theorem Sound.result_unlink_of_some (sound : tables.Sound) {a b : Int} {row : Row LinkCells}
    (found : tables.linkRow? a b = some row) :
    result (unlink a b) tables.store = (.ok true, (tables.deleteLinks (· = row)).store) := by
  obtain ⟨inside, ends⟩ := sound.links.rowAt?_eq_some_iff.mp found
  have joins : ∀ other ∈ tables.links.rows, LinkCells.joins a b other = decide (other = row) := by
    intro other stored
    rw [LinkCells.joins_eq]
    apply decide_eq_decide.mpr
    constructor
    · intro own
      have again : tables.linkRow? a b = some other :=
        sound.links.rowAt?_eq_some_iff.mpr ⟨stored, own⟩
      exact Option.some.inj (again.symm.trans found)
    · rintro rfl
      exact ends
  have some : 0 < tables.links.count (LinkCells.joins a b) :=
    List.countP_pos_iff.mpr ⟨row, inside, (joins row inside).trans (decide_eq_true rfl)⟩
  have same : tables.deleteLinks (LinkCells.joins a b) = tables.deleteLinks (· = row) := by
    rw [Tables.deleteLinks, Table.delete_congr joins]
    rfl
  rw [result_unlink, decide_eq_true some, same]

/-- To remove the link between two ports removes what their MAC addresses name. -/
theorem Sound.comes_link (sound : tables.Sound) {target peer : String} {x y : Mac}
    (first : macNamed target = .ok x) (second : macNamed peer = .ok y) :
    tables.Comes (forgetLink target peer) (.ok (.link x y)) := by
  have ended : result (forgetLink target peer) tables.store = _ := result_forgetLink first second
  cases found : tables.linkBetween? x y with
  | none =>
    refine .absent (fun stored => sound.stored_link_iff.mp stored found) ?_
    rw [ended]
    cases aFound : tables.portRow? x with
    | none => rfl
    | some a =>
      cases bFound : tables.portRow? y with
      | none => rfl
      | some b =>
        rw [linkBetween?, aFound, bFound] at found
        exact result_unlink_of_none found
  | some link =>
    obtain ⟨inside, a, b, aFound, bFound, ends⟩ := sound.ends_of_linkBetween? found
    have joined : tables.linkRow? a.id b.id = some link :=
      sound.links.rowAt?_eq_some_iff.mpr ⟨inside, ends⟩
    have there : tables.store.HasLink link x y := sound.hasLink_store.mpr found
    have later := sound.deleteLinks (· = link)
    rw [aFound, bFound] at ended
    have gone : (tables.deleteLinks (· = link)).linkRow? a.id b.id = none := by
      apply sound.linkRow?_deleteLinks_of_gone
      intro row same
      exact decide_eq_true (Option.some.inj (same.symm.trans joined))
    have none : (tables.deleteLinks (· = link)).linkBetween? x y = none := by
      rw [linkBetween?, portRow?_deleteLinks, portRow?_deleteLinks, aFound, bFound]
      exact gone
    exact .present ⟨link, there⟩ _ later (ended.trans (sound.result_unlink_of_some joined))
      ⟨link, there, rfl⟩ fun stored => later.stored_link_iff.mp stored none

/-- What some arguments remove is what they name. -/
theorem Sound.comes_removal (sound : tables.Sound) (target : String) (peer? : Option String) :
    tables.Comes (removal target peer?) (Target.named target peer?) := by
  cases peer? with
  | some peer =>
    rw [Target.named_link]
    cases first : macNamed target with
    | error cause =>
      exact .refused (result_bind_error (result_macArgument_error first _))
    | ok x =>
      cases second : macNamed peer with
      | ok y => exact sound.comes_link first second
      | error cause =>
        refine .refused ?_
        have rest := result_macArgument_error second tables.store
        refine (result_bind_ok (result_macArgument_ok first _)).trans ?_
        refine (result_bind_ok (result_ask_ok (portId?_store tables x))).trans ?_
        exact result_bind_error rest
  | none =>
    cases read : Ipv4.ofString? target with
    | some address =>
      simp only [Target.named_device read, removal, read]
      exact sound.comes_device address
    | none =>
      simp only [Target.named_port read, removal, read]
      cases first : macNamed target with
      | error cause =>
        exact .refused (result_bind_error (result_macArgument_error first _))
      | ok mac =>
        have taken := result_macArgument_ok first tables.store
        exact (sound.comes_port mac).of_result_eq (result_bind_ok taken)

/-! ## What to forget comes to -/

/-- To forget fails where the removal does, and also where nothing was removed. -/
theorem result_forget (target : String) (peer? : Option String) :
    result (forget target peer?) tables.store =
      match result (removal target peer?) tables.store with
      | (.ok true, later) => (.ok (), later)
      | (.ok false, later) => (.error (.argument (.nothingToRemove target)), later)
      | (.error failure, later) => (.error failure, later) := by
  have made : result createTables tables.store = (.ok (), tables.store) := rfl
  rw [forget_eq]
  refine (result_bind_ok made).trans ?_
  rcases ended : result (removal target peer?) tables.store with ⟨outcome, later⟩
  cases outcome with
  | error failure => exact result_bind_error ended
  | ok removed =>
    refine (result_bind_ok ended).trans ?_
    cases removed <;> rfl

/-- To forget by arguments that name nothing fails for that reason and changes nothing. -/
theorem Sound.result_forget_refused (sound : tables.Sound) {target : String}
    {peer? : Option String} {cause : ArgumentCause}
    (refused : Target.named target peer? = .error cause) :
    result (forget target peer?) tables.store = (.error (.argument cause), tables.store) := by
  have comes := sound.comes_removal target peer?
  rw [refused] at comes
  cases comes with
  | refused ended => rw [result_forget, ended]

/-- To forget what is not stored fails for that reason and changes nothing. -/
theorem Sound.result_forget_absent (sound : tables.Sound) {target : String}
    {peer? : Option String} {named : Target} (known : Target.named target peer? = .ok named)
    (missing : ¬ named.Stored tables.store) :
    result (forget target peer?) tables.store =
      (.error (.argument (.nothingToRemove target)), tables.store) := by
  have comes := sound.comes_removal target peer?
  rw [known] at comes
  cases comes with
  | absent _ ended => rw [result_forget, ended]
  | present stored => exact absurd stored missing

/-- To forget what is stored succeeds, and it is gone with what hangs on it. -/
theorem Sound.result_forget_present (sound : tables.Sound) {target : String}
    {peer? : Option String} {named : Target} (known : Target.named target peer? = .ok named)
    (stored : named.Stored tables.store) :
    ∃ later : Tables, later.Sound ∧ result (forget target peer?) tables.store = (.ok (), later.store)
      ∧ named.Gone tables.store later.store ∧ ¬ named.Stored later.store := by
  have comes := sound.comes_removal target peer?
  rw [known] at comes
  cases comes with
  | absent missing => exact absurd stored missing
  | present _ later kept ended gone missing =>
    exact ⟨later, kept, by rw [result_forget, ended], gone, missing⟩

/-- It succeeds exactly if the store is not the same after it: what goes is not stored any more. -/
theorem Sound.isOk_forget_iff (sound : tables.Sound) (target : String) (peer? : Option String) :
    (result (forget target peer?) tables.store).1.isOk ↔
      after (forget target peer?) tables.store ≠ tables.store := by
  unfold after
  cases known : Target.named target peer? with
  | error cause =>
    rw [sound.result_forget_refused known]
    exact iff_of_false Bool.false_ne_true fun changed => changed rfl
  | ok named =>
    by_cases stored : named.Stored tables.store
    · obtain ⟨later, _, ended, _, missing⟩ := sound.result_forget_present known stored
      rw [ended]
      refine iff_of_true rfl fun same => missing ?_
      rwa [show later.store = tables.store from same]
    · rw [sound.result_forget_absent known stored]
      exact iff_of_false Bool.false_ne_true fun changed => changed rfl

/-- After it succeeded there is nothing left to remove. -/
theorem Sound.result_forget_again (sound : tables.Sound) {target : String} {peer? : Option String}
    {later : Store} (succeeded : result (forget target peer?) tables.store = (.ok (), later)) :
    result (forget target peer?) later =
      (.error (.argument (.nothingToRemove target)), later) := by
  cases known : Target.named target peer? with
  | error cause =>
    rw [sound.result_forget_refused known] at succeeded
    cases succeeded
  | ok named =>
    by_cases stored : named.Stored tables.store
    · obtain ⟨left, kept, ended, _, missing⟩ := sound.result_forget_present known stored
      obtain rfl : left.store = later := by
        rw [ended] at succeeded
        exact congrArg Prod.snd succeeded
      exact kept.result_forget_absent known missing
    · rw [sound.result_forget_absent known stored] at succeeded
      cases succeeded

/-- However two MAC addresses are spelled, the arguments name the link between their ports. -/
theorem named_of_spells {target peer : String} {x y : Mac} (first : x.Spells target)
    (second : y.Spells peer) : Target.named target (some peer) = .ok (.link x y) := by
  rw [Target.named_link, macNamed, macNamed, first.ofString_eq, second.ofString_eq]
  rfl

/-- So that link goes if there is one, and otherwise there is nothing to remove. -/
theorem Sound.result_forget_spelled (sound : tables.Sound) {target peer : String} {x y : Mac}
    (first : x.Spells target) (second : y.Spells peer) :
    (tables.store.Linked x y →
      ∃ later, result (forget target (some peer)) tables.store = (.ok (), later) ∧
        (Target.link x y).Gone tables.store later) ∧
    (¬ tables.store.Linked x y → result (forget target (some peer)) tables.store =
      (.error (.argument (.nothingToRemove target)), tables.store)) := by
  have known := named_of_spells first second
  constructor
  · intro linked
    obtain ⟨later, _, ended, gone, _⟩ := sound.result_forget_present known linked
    exact ⟨later.store, ended, gone⟩
  · exact sound.result_forget_absent known

/-- On sound tables what to forget does is determined by what the arguments name. -/
theorem Sound.forgets (sound : tables.Sound) (target : String) (peer? : Option String) :
    Forgets tables.store target peer? where
  changes := sound.isOk_forget_iff target peer?
  present named known stored := by
    obtain ⟨later, _, ended, gone, _⟩ := sound.result_forget_present known stored
    exact ⟨later.store, ended, gone⟩
  absent _ := sound.result_forget_absent
  refused _ := sound.result_forget_refused
  addressed address read withPeer := by
    obtain ⟨peer, rfl⟩ := Option.isSome_iff_exists.mp withPeer
    apply sound.result_forget_refused
    rw [Target.named_link, macNamed, Mac.ofString_of_address read]
    rfl
  spelled peer given x y spelled := by
    obtain rfl : peer? = some peer := given
    rcases spelled with ⟨first, second⟩ | ⟨first, second⟩
    · exact sound.result_forget_spelled first second
    · obtain ⟨goes, fails⟩ := sound.result_forget_spelled first second
      refine ⟨fun linked => ?_, fun apart => fails fun linked => apart linked.symm⟩
      obtain ⟨later, ended, gone⟩ := goes linked.symm
      exact ⟨later, ended, gone.symm⟩
  again _ := sound.result_forget_again

end Tables

/-- Whatever was done to a newly opened database, what is named goes, and to forget succeeds only
for that. -/
theorem forgets_after_run (place : String) (opening : Log.Logger) (operations : List Operation)
    (target : String) (peer? : Option String) :
    Forgets (afterAll (operations.map Operation.transaction)
      (after (openAt place opening) ⟨none, none, none⟩)) target peer? := by
  obtain ⟨tables, sound, reached⟩ := Tables.Sound.empty.after_run operations
  rw [after_openAt, reached]
  exact sound.forgets target peer?

end Store

end CableMap
