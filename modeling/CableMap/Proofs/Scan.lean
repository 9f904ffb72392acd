import CableMap.Proofs.Scan.Hosts
import CableMap.Tools

/-!
# What a scan finds

A scan finds a host exactly if the scanner can be started, ends well, and prints a line that begins
with the address of the host. A scanner that is missing or that ends with a status other than zero
finds nothing, whatever it printed.
-/
namespace CableMap

namespace Program

variable {programs : Programs} {program : String} {arguments : List String}

/-- A program gives a text exactly if it can be started, ends well and says that text. -/
theorem run_eq_ok_iff {capture : Capture} {log : Log.Logger} {text : String} :
    (run programs program arguments capture log).value = .ok text ↔
      canBePassed (program :: arguments) ∧ ∃ output messages,
        programs program arguments = .exited 0 output messages ∧
          captured capture output messages = text := by
  unfold run launch
  by_cases passed : canBePassed (program :: arguments) = true
  · cases ended : programs program arguments with
    | missing => simp [passed]
    | exited status output messages =>
      by_cases well : status = 0
      · simp only [passed, well]
        constructor
        · intro said
          exact ⟨trivial, output, messages, rfl, Except.ok.inj said⟩
        · rintro ⟨_, _, _, same, said⟩
          cases same
          exact congrArg Except.ok said
      · simp [passed, well]
  · simp [passed]

end Program

/-- A scan finds a host: the scanner can be started, ends well, and prints a line that begins with
its address. -/
def Tools.Finds (tools : Tools) (programs : Programs) (target community : String) (host : Ipv4) :
    Prop :=
  Program.canBePassed (tools.scanner :: scanArguments target community) ∧ ∃ output messages,
    programs tools.scanner (scanArguments target community) = .exited 0 output messages ∧
      ∃ line ∈ Text.lines output.toList, Scan.Names line host

/-- A scan comes to the hosts of the lines that the scanner prints. -/
theorem Tools.value_scan (tools : Tools) (programs : Programs) (target community : String)
    (log : Log.Logger) :
    (tools.scan programs target community log).value =
      (Program.run programs tools.scanner (scanArguments target community) .output log).value.map
        fun text => (Scan.hosts ((Text.lines text.toList).map String.ofList)
          (log.unit "tools")).value := by
  unfold scan Program.runLines
  rw [Traced.value_bind, Traced.value_bind]
  cases (Program.run programs tools.scanner (scanArguments target community) .output log).value with
  | error failure => rfl
  | ok text => rfl

/-- The hosts that a scan gives are those that it finds. -/
theorem Tools.mem_scan_iff {tools : Tools} {programs : Programs} {target community : String}
    {log : Log.Logger} {host : Ipv4} :
    (∃ hosts, (tools.scan programs target community log).value = .ok hosts ∧ host ∈ hosts) ↔
      tools.Finds programs target community host := by
  have ran {text : String} := @Program.run_eq_ok_iff programs tools.scanner
    (scanArguments target community) .output log text
  rw [value_scan]
  constructor
  · rintro ⟨hosts, scanned, found⟩
    cases said : (Program.run programs tools.scanner (scanArguments target community) .output
        log).value with
    | error failure =>
      rw [said] at scanned
      cases scanned
    | ok text =>
      rw [said] at scanned
      cases scanned
      obtain ⟨passed, output, messages, ended, rfl⟩ := ran.1 said
      obtain ⟨line, inside, names⟩ := Scan.mem_value_hosts.1 found
      obtain ⟨characters, printed, rfl⟩ := List.mem_map.1 inside
      rw [String.toList_ofList] at names
      exact ⟨passed, output, messages, ended, characters, printed, names⟩
  · rintro ⟨passed, output, messages, ended, characters, printed, names⟩
    rw [ran.2 ⟨passed, output, messages, ended, rfl⟩]
    refine ⟨_, rfl, Scan.mem_value_hosts.2 ⟨_, List.mem_map_of_mem printed, ?_⟩⟩
    rwa [String.toList_ofList]

end CableMap
