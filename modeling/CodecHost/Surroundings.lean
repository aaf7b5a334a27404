import CodecHost.Action
import CodecHost.Directory

/-! The host works on a system that it does not control: a loader for native
modules, the memory that loaded modules bring with them, directories, and the
environment. Everything the host asks of the system is a field here, and the
system's own state is left open, so that what is shown of the host holds for
every loader, also for one that fails at any point. -/
namespace CodecHost

structure Surroundings (σ : Type) where
  /-- Opens the module at a path, taking one reference on it. -/
  openModule : Path → σ → Except String Handle × σ
  /-- The descriptor that the module behind a handle exports. -/
  resolve : Handle → σ → Except String Descriptor × σ
  /-- Gives one reference back. The memory of a module goes away with its last one. -/
  close : Handle → σ → σ
  /-- What is read at each address at the moment. -/
  memory : σ → Memory
  listing : σ → Path → Listing
  /-- The value of an environment variable. -/
  lookup : σ → String → Option Bytes

end CodecHost
