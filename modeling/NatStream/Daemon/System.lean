import NatStream.Lib.Descriptors
import NatStream.Lib.Effects
import NatStream.Worker.EventLoop

namespace NatStream.Daemon.System

open NatStream.Lib.Descriptors NatStream.Lib.Effects
open NatStream.Worker.EventLoop (StartError)

def ebadf : Nat := 9

inductive SocketAddr where
  | v4 (ip : UInt32) (port : UInt16)
  | v6 (ip : BitVec 128) (port : UInt16)
  deriving DecidableEq

/-- What a descriptor can stand for. A buffer size is there once it was set. -/
inductive File where
  | path (name : String) (flags mode : Nat)
  | signals (set : List Nat)
  | udp (bound : Bool) (peer : Option SocketAddr) (sendBuf : Option Nat)
  | netlink (bound : Bool) (groups : List Nat) (recvBuf : Option Nat) (noEnobufs : Bool)
  | inherited (id : Nat)
  deriving DecidableEq

/-- A process as far as starting up concerns it: its descriptors, the signals it
blocks, the files under `/proc/sys`, and how its calls will fare. An answer
`some e` makes the call fail with that error number. -/
structure Process where
  files : Table File
  mask : List Nat
  sysctls : String → String
  answers : List (Option Nat)

inductive Cause where
  | os (errno : Nat)
  | nulByte
  | start (error : StartError)
  deriving DecidableEq

/-- An error with its contexts, the outermost first. -/
structure Error where
  contexts : List String
  cause : Cause
  deriving DecidableEq

abbrev Os (α : Type) := Fallible Process Error α

variable {α : Type}

def context (text : String) (x : Os α) : Os α :=
  mapError (fun e => ⟨text :: e.contexts, e.cause⟩) x

def syscall (contexts : List String) (effect : Process → Except Nat (α × Process)) : Os α := fun p =>
  let rest := { p with answers := p.answers.tail }
  match p.answers.head?.join with
  | some e => (.error ⟨contexts, .os e⟩, rest)
  | none =>
    match effect rest with
    | .ok (a, p') => (.ok a, p')
    | .error e => (.error ⟨contexts, .os e⟩, rest)

/-- A call that makes a new descriptor. -/
def openNew (contexts : List String) (f : File) : Os Nat :=
  syscall contexts fun p =>
    .ok (lowest p.files, { p with files := assign p.files (lowest p.files) (some f) })

/-- A call that changes what a descriptor stands for. -/
def change (contexts : List String) (fd : Nat) (g : File → File) : Os Unit :=
  syscall contexts fun p =>
    match file p.files fd with
    | none => .error ebadf
    | some f => .ok ((), { p with files := assign p.files fd (some (g f)) })

def dup2 (contexts : List String) (fd target : Nat) : Os Unit :=
  syscall contexts fun p =>
    match file p.files fd with
    | none => .error ebadf
    | some f => .ok ((), { p with files := assign p.files target (some f) })

/-- Its result is never looked at, and the number is free either way. -/
def closed (fd : Nat) (p : Process) : Process := { p with files := assign p.files fd none }

def close (fd : Nat) : Os Unit := modify (closed fd)

/-- Set the mask of blocked signals. -/
def sigmask (contexts : List String) (g : List Nat → List Nat) : Os Unit :=
  syscall contexts fun p => .ok ((), { p with mask := g p.mask })

def readToString (contexts : List String) (path : String) : Os String :=
  syscall contexts fun p => .ok (p.sysctls path, p)

def writeFile (contexts : List String) (path content : String) : Os Unit :=
  syscall contexts fun p => .ok ((), { p with sysctls := Function.update p.sysctls path content })

/-- What can be seen of a process, leaving aside how its calls will fare. -/
structure Sight where
  files : Nat → Option File
  mask : List Nat
  sysctls : String → String

def sight (p : Process) : Sight := ⟨file p.files, p.mask, p.sysctls⟩

def Sight.put (s : Sight) (fd : Nat) (v : Option File) : Sight :=
  { s with files := Function.update s.files fd v }

/-- With these signals blocked as well. -/
def Sight.block (s : Sight) (signals : List Nat) : Sight := { s with mask := s.mask ++ signals }

@[simp] theorem Sight.put_self (s : Sight) (fd : Nat) (v : Option File) : (s.put fd v).files fd = v := by
  simp [Sight.put]

theorem Sight.put_of_ne (s : Sight) {fd n : Nat} (h : n ≠ fd) (v : Option File) :
    (s.put fd v).files n = s.files n := by
  simp [Sight.put, h]

theorem free_of_put {s : Sight} {fd n : Nat} {f : File} (h : (s.put fd (some f)).files n = none) :
    n ≠ fd ∧ s.files n = none := by
  have hne : n ≠ fd := by
    rintro rfl
    rw [s.put_self] at h
    cases h
  rw [s.put_of_ne hne] at h
  exact ⟨hne, h⟩

/-- The number a new descriptor gets: free, with none free below it. -/
structure Fresh (files : Nat → Option File) (fd : Nat) : Prop where
  free : files fd = none
  least : ∀ n < fd, files n ≠ none

/-- None of the calls still to come is made to fail. -/
def Calm (p : Process) : Prop := ∀ answer ∈ p.answers, answer = none

/-- The process looks like this, and no call will be made to fail if `calm`. -/
structure Is (calm : Prop) (s : Sight) (p : Process) : Prop where
  sight_eq : sight p = s
  undisturbed : calm → Calm p

/-- A call was made to fail, and the process looks as it did before. -/
structure Failed (calm : Prop) (s : Sight) (p : Process) : Prop extends Is calm s p where
  disturbed : ¬ calm

variable {calm : Prop}

theorem calm_tail {p : Process} (h : Calm p) : Calm { p with answers := p.answers.tail } :=
  fun answer hmem => h answer (List.mem_of_mem_tail hmem)

theorem calm_head {p : Process} (h : Calm p) : p.answers.head?.join = none := by
  cases ha : p.answers with
  | nil => rfl
  | cons answer rest =>
    have hnone := h answer (by simp [ha])
    rw [hnone]
    rfl

/-- A call that the kernel does not refuse by itself fails only if it is made
to, and then changes nothing. -/
theorem syscall_meets {contexts : List String} {effect : Process → Except Nat (α × Process)}
    {s : Sight} {ok : α → Process → Prop}
    (h : ∀ p, Is calm s p → ∃ a p', effect p = .ok (a, p') ∧ ok a p') :
    Meets (syscall contexts effect) (Is calm s) ok (Failed calm s) := by
  intro p hp
  have hrest : Is calm s { p with answers := p.answers.tail } :=
    ⟨hp.sight_eq, fun hc => calm_tail (hp.undisturbed hc)⟩
  rw [syscall]
  cases hhead : p.answers.head?.join with
  | some e =>
    refine ⟨hrest, fun hc => ?_⟩
    rw [calm_head (hp.undisturbed hc)] at hhead
    cases hhead
  | none =>
    obtain ⟨a, p', he, hok⟩ := h _ hrest
    dsimp only
    rw [he]
    exact hok

theorem Is.assign {p : Process} {s : Sight} (h : Is calm s p) (fd : Nat) (v : Option File) :
    Is calm (s.put fd v) { p with files := assign p.files fd v } := by
  refine ⟨?_, h.undisturbed⟩
  rw [← h.sight_eq]
  simp only [sight, Sight.put, file_assign]

theorem Is.files {p : Process} {s : Sight} (h : Is calm s p) : file p.files = s.files :=
  congrArg Sight.files h.sight_eq

theorem openNew_meets (contexts : List String) (f : File) (s : Sight) :
    Meets (openNew contexts f) (Is calm s)
      (fun fd p => Fresh s.files fd ∧ Is calm (s.put fd (some f)) p) (Failed calm s) := by
  apply syscall_meets
  intro p hp
  refine ⟨_, _, rfl, ⟨?_, ?_⟩, hp.assign _ _⟩
  · rw [← hp.files]
    exact file_lowest p.files
  · intro n hn
    rw [← hp.files]
    exact Option.isSome_iff_ne_none.mp (isSome_of_lt_lowest hn)

theorem change_meets (contexts : List String) {fd : Nat} (g : File → File) {s : Sight} {f : File}
    (hf : s.files fd = some f) :
    Meets (change contexts fd g) (Is calm s) (fun _ => Is calm (s.put fd (some (g f))))
      (Failed calm s) := by
  apply syscall_meets
  intro p hp
  rw [hp.files, hf]
  exact ⟨_, _, rfl, hp.assign fd _⟩

theorem dup2_meets (contexts : List String) {fd : Nat} (target : Nat) {s : Sight} {f : File}
    (hf : s.files fd = some f) :
    Meets (dup2 contexts fd target) (Is calm s) (fun _ => Is calm (s.put target (some f)))
      (Failed calm s) := by
  apply syscall_meets
  intro p hp
  rw [hp.files, hf]
  exact ⟨_, _, rfl, hp.assign target _⟩

theorem close_meets (fd : Nat) (s : Sight) {err : Process → Prop} :
    Meets (close fd) (Is calm s) (fun _ => Is calm (s.put fd none)) err :=
  meets_modify fun _ hp => hp.assign fd none

theorem sigmask_meets (contexts : List String) (g : List Nat → List Nat) (s : Sight) :
    Meets (sigmask contexts g) (Is calm s) (fun _ => Is calm { s with mask := g s.mask })
      (Failed calm s) := by
  apply syscall_meets
  rintro p ⟨rfl, hc⟩
  exact ⟨_, _, rfl, rfl, hc⟩

theorem readToString_meets (contexts : List String) (path : String) (s : Sight) :
    Meets (readToString contexts path) (Is calm s)
      (fun text p => text = s.sysctls path ∧ Is calm s p) (Failed calm s) := by
  apply syscall_meets
  rintro p ⟨rfl, hc⟩
  exact ⟨_, _, rfl, rfl, rfl, hc⟩

theorem writeFile_meets (contexts : List String) (path content : String) (s : Sight) :
    Meets (writeFile contexts path content) (Is calm s)
      (fun _ => Is calm { s with sysctls := Function.update s.sysctls path content })
      (Failed calm s) := by
  apply syscall_meets
  rintro p ⟨rfl, hc⟩
  exact ⟨_, _, rfl, rfl, hc⟩

end NatStream.Daemon.System
