import CodecHost.Proofs.LoadAttempts
import CodecHost.Proofs.ScanBuffers

/-! What the command that scans a directory prints. With a buffer that is large enough it describes
the plugin of every load that succeeds. Without one it describes what is in the table, where a
module stands once, however many names lead to it; so it comes short of its own count as soon as
two names lead to one module. -/
namespace CodecHost

variable {σ : Type} {S : Surroundings σ}

/-! Repetitions taken out of a list. The search goes through the list with what it has kept so
far, newest first, and so fills up like a table that takes in one module after the other. -/

section FirstOfEach

variable {α : Type} {same : α → α → Bool} {seen xs : List α}

end FirstOfEach

namespace ModuleTable

/-- The modules of the table, each with the descriptor that it exports. -/
def exports (t : ModuleTable) : List (ModuleId × Descriptor) :=
  t.records.map fun record => (record.id, record.descriptor)

variable {t : ModuleTable} {record : Record} {d : Descriptor} {h : Handle}

end ModuleTable

namespace Context

/-- Two loads came to one module. -/
def sameModule (x y : ModuleId × Descriptor) : Bool := x.1 == y.1

namespace Attempt

end Attempt

variable {c : Context σ}

end Context

namespace Report

end Report

namespace CommandLine

open Context (attempts Attempt sameModule)

variable {system : σ} {m : Memory} {directory : Path} {count : Nat} {known : List Descriptor}

/-- What a scan reports of the loads that it makes: as many as there are slots, or one for each
module. -/
def reported (capacity : Option Nat) (found : List (ModuleId × Descriptor)) :
    List (ModuleId × Descriptor) :=
  match capacity with
  | some n => found.take n
  | none => found.eraseDupsBy sameModule

variable {found : List (ModuleId × Descriptor)}

end CommandLine
end CodecHost
