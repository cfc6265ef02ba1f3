import NatStream.Daemon.System

namespace NatStream.Daemon.Stdio

open NatStream.Lib.Descriptors NatStream.Lib.Effects NatStream.Daemon.System

def oWronly : Nat := 1
def oRdwr : Nat := 2
def oCreat : Nat := 0o100
def oAppend : Nat := 0o2000

def stdinFileno : Nat := 0
def stdoutFileno : Nat := 1
def stderrFileno : Nat := 2

def openFd (path : String) (flags mode : Nat) : Os Nat :=
  if '\x00' ∈ path.toList then fail ⟨["path " ++ path ++ " contains a NUL byte"], .nulByte⟩
  else openNew ["failed to open " ++ path] (.path path flags mode)

def dup2Checked (fd targetFd : Nat) : Os Unit := dup2 ["dup2() failed"] fd targetFd

def logFlags : Nat := oWronly ||| oCreat ||| oAppend

def openOut (logFile : Option String) (devnull : Nat) : Os Nat :=
  match logFile with
  | some path => openFd path logFlags 0o640
  | none => pure devnull

def closeIf (condition : Bool) (fd : Nat) : Os Unit := if condition then close fd else pure ()

/-- Detach stdio from the terminal. Log output goes to the log file when there
is one, and is discarded otherwise. -/
def redirectStdio (logFile : Option String) : Os Unit := do
  let devnull ← openFd "/dev/null" oRdwr 0
  let outFd ← openOut logFile devnull
  let result ← observe do
    dup2Checked devnull stdinFileno
    dup2Checked outFd stdoutFileno
    dup2Checked outFd stderrFileno
  closeIf (outFd ≠ devnull && outFd > stderrFileno) outFd
  closeIf (devnull > stderrFileno) devnull
  ofExcept result

def nullFile : File := .path "/dev/null" oRdwr 0

def outFile : Option String → File
  | some path => .path path logFlags 0o640
  | none => nullFile

/-- The path can be handed to the kernel. -/
def Passable (logFile : Option String) : Prop := ∀ path, logFile = some path → '\x00' ∉ path.toList

variable {calm : Prop} {logFile : Option String}

/-- Both files are open, at numbers that were free, and nothing else changed. -/
structure Ready (s : Sight) (logFile : Option String) (devnull outFd : Nat) (t : Sight) : Prop where
  null : t.files devnull = some nullFile
  out : t.files outFd = some (outFile logFile)
  order : devnull ≤ outFd
  free : s.files devnull = none ∧ s.files outFd = none
  others : ∀ n, n ≠ devnull → n ≠ outFd → t.files n = s.files n
  mask : t.mask = s.mask
  sysctls : t.sysctls = s.sysctls

/-- Above the standard streams everything is as before, but for one number at
most, which was free. -/
structure Beyond (s : Sight) (leak : Option Nat) (t : Sight) : Prop where
  files : ∀ n > stderrFileno, some n ≠ leak → t.files n = s.files n
  free : ∀ fd, leak = some fd → s.files fd = none
  mask : t.mask = s.mask
  sysctls : t.sysctls = s.sysctls

structure Redirected (logFile : Option String) (t : Sight) : Prop where
  stdin : t.files stdinFileno = some nullFile
  stdout : t.files stdoutFileno = some (outFile logFile)
  stderr : t.files stderrFileno = some (outFile logFile)

theorem openFd_meets {path : String} (hpath : calm → '\x00' ∉ path.toList) (flags mode : Nat)
    (s : Sight) :
    Meets (openFd path flags mode) (Is calm s)
      (fun fd p => Fresh s.files fd ∧ Is calm (s.put fd (some (.path path flags mode))) p)
      (Failed calm s) := by
  rw [openFd]
  split
  · next hnul => exact meets_fail fun p hp => ⟨hp, fun hc => hpath hc hnul⟩
  · exact openNew_meets _ _ s

theorem fresh_le {s : Sight} {fd fd' : Nat} {f : File} (h : Fresh s.files fd)
    (h' : Fresh (s.put fd (some f)).files fd') : fd < fd' ∧ s.files fd' = none := by
  obtain ⟨hne, hfree⟩ := free_of_put h'.free
  refine ⟨?_, hfree⟩
  by_contra hlt
  exact h.least fd' (by omega) hfree

theorem openOut_meets (hpass : calm → Passable logFile) {s : Sight} {devnull : Nat}
    (hd : Fresh s.files devnull) :
    Meets (openOut logFile devnull) (Is calm (s.put devnull (some nullFile)))
      (fun outFd p => ∃ t, Ready s logFile devnull outFd t ∧ Is calm t p)
      (Failed calm (s.put devnull (some nullFile))) := by
  cases logFile with
  | none =>
    apply meets_pure
    intro p hp
    refine ⟨s.put devnull (some nullFile), ⟨?_, ?_, Nat.le_refl _, ⟨hd.free, hd.free⟩, ?_, rfl, rfl⟩, hp⟩
    · exact s.put_self _ _
    · exact s.put_self _ _
    · intro n hn _
      exact s.put_of_ne hn _
  | some path =>
    apply (openFd_meets (fun hc => hpass hc path rfl) logFlags 0o640 _).weaken_ok _
    rintro outFd p ⟨ho, hp⟩
    obtain ⟨hlt, hfree⟩ := fresh_le hd ho
    refine ⟨(s.put devnull (some nullFile)).put outFd (some (outFile (some path))),
      ⟨?_, ?_, Nat.le_of_lt hlt, ⟨hd.free, hfree⟩, ?_, rfl, rfl⟩, hp⟩
    · rw [Sight.put_of_ne _ (Nat.ne_of_lt hlt), Sight.put_self]
    · exact Sight.put_self _ _ _
    · intro n hn hn'
      rw [Sight.put_of_ne _ hn', Sight.put_of_ne _ hn]

theorem Beyond.put {s t : Sight} {leak : Option Nat} (h : Beyond s leak t) {fd : Nat}
    (hfd : fd ≤ stderrFileno) (v : Option File) : Beyond s leak (t.put fd v) := by
  refine ⟨?_, h.free, h.mask, h.sysctls⟩
  intro n hn hleak
  have hne : n ≠ fd := by omega
  exact (t.put_of_ne hne v).trans (h.files n hn hleak)

theorem Beyond.refl (s : Sight) : Beyond s none s :=
  ⟨fun _ _ _ => rfl, by simp, rfl, rfl⟩

/-- Putting the files in the place of the standard streams. Neither is
overwritten before its last use, whichever numbers they got. -/
theorem dups_meets {s t : Sight} {devnull outFd : Nat} (h : Ready s logFile devnull outFd t) :
    Meets (do
        dup2Checked devnull stdinFileno
        dup2Checked outFd stdoutFileno
        dup2Checked outFd stderrFileno)
      (Is calm t) (fun _ p => ∃ t', Redirected logFile t' ∧ Beyond t none t' ∧ Is calm t' p)
      (fun p => ∃ t', Beyond t none t' ∧ Failed calm t' p) := by
  have h₀ := Beyond.refl t
  have h₁ := h₀.put (Nat.zero_le stderrFileno) (some nullFile)
  have h₂ := h₁.put (show stdoutFileno ≤ stderrFileno by decide) (some (outFile logFile))
  have h₃ := h₂.put (Nat.le_refl stderrFileno) (some (outFile logFile))
  have hout₁ : (t.put stdinFileno (some nullFile)).files outFd = some (outFile logFile) := by
    by_cases hzero : outFd = stdinFileno
    · have hsame : devnull = outFd := Nat.le_antisymm h.order (by rw [hzero]; exact Nat.zero_le _)
      rw [← h.out, ← hsame, h.null, hsame, hzero]
      exact t.put_self _ _
    · exact (t.put_of_ne hzero _).trans h.out
  have hout₂ : ((t.put stdinFileno (some nullFile)).put stdoutFileno
      (some (outFile logFile))).files outFd = some (outFile logFile) := by
    by_cases hone : outFd = stdoutFileno
    · rw [hone]
      exact Sight.put_self _ _ _
    · exact (Sight.put_of_ne _ hone _).trans hout₁
  apply ((dup2_meets _ stdinFileno h.null).weaken_err fun p hp => ⟨t, h₀, hp⟩).bind
  intro _
  apply ((dup2_meets _ stdoutFileno hout₁).weaken_err fun p hp => ⟨_, h₁, hp⟩).bind
  intro _
  apply (dup2_meets _ stderrFileno hout₂).weaken (fun _ hp => hp) _ fun p hp => ⟨_, h₂, hp⟩
  intro _ p hp
  exact ⟨_, ⟨rfl, rfl, rfl⟩, h₃, hp⟩

def closedIf (condition : Bool) (fd : Nat) (t : Sight) : Sight :=
  if condition then t.put fd none else t

theorem closeIf_meets (condition : Bool) (fd : Nat) (t : Sight) {err : Process → Prop} :
    Meets (closeIf condition fd) (Is calm t) (fun _ => Is calm (closedIf condition fd t)) err := by
  cases condition with
  | true => exact close_meets fd t
  | false => exact meets_pure fun _ hp => hp

/-- What is left once the two descriptors are closed, unless they are standard
streams now. -/
def tidied (devnull outFd : Nat) (t : Sight) : Sight :=
  closedIf (devnull > stderrFileno) devnull
    (closedIf (outFd ≠ devnull && outFd > stderrFileno) outFd t)

theorem closedIf_files {condition : Bool} {fd n : Nat} (h : n = fd → condition = false) (t : Sight) :
    (closedIf condition fd t).files n = t.files n := by
  cases condition with
  | true => exact t.put_of_ne (fun hn => Bool.noConfusion (h hn)) none
  | false => rfl

theorem tidied_redirected {t : Sight} (h : Redirected logFile t) (devnull outFd : Nat) :
    Redirected logFile (tidied devnull outFd t) := by
  have hsame : ∀ n ≤ stderrFileno, (tidied devnull outFd t).files n = t.files n := by
    intro n hn
    rw [tidied, closedIf_files, closedIf_files]
    · rintro rfl
      simp [hn]
    · rintro rfl
      simp [hn]
  refine ⟨?_, ?_, ?_⟩
  · rw [hsame stdinFileno (by decide)]
    exact h.stdin
  · rw [hsame stdoutFileno (by decide)]
    exact h.stdout
  · rw [hsame stderrFileno (by decide)]
    exact h.stderr

theorem closedIf_mask (condition : Bool) (fd : Nat) (t : Sight) :
    (closedIf condition fd t).mask = t.mask ∧ (closedIf condition fd t).sysctls = t.sysctls := by
  cases condition <;> exact ⟨rfl, rfl⟩

theorem tidied_beyond {s t t' : Sight} {devnull outFd : Nat}
    (h : Ready s logFile devnull outFd t) (ht : Beyond t none t') :
    Beyond s none (tidied devnull outFd t') := by
  have hinner := closedIf_mask (outFd ≠ devnull && outFd > stderrFileno) outFd t'
  have houter := closedIf_mask (devnull > stderrFileno) devnull
    (closedIf (outFd ≠ devnull && outFd > stderrFileno) outFd t')
  refine ⟨?_, by simp, ?_, ?_⟩
  · intro n hn _
    by_cases hd : n = devnull
    · subst hd
      have hpos : decide (n > stderrFileno) = true := decide_eq_true hn
      rw [tidied, hpos, h.free.1]
      exact Sight.put_self _ _ _
    · rw [tidied, closedIf_files (fun hn' => absurd hn' hd)]
      by_cases ho : n = outFd
      · subst ho
        have hpos : (decide (n ≠ devnull) && decide (n > stderrFileno)) = true := by
          simp [hd, hn]
        rw [hpos, h.free.2]
        exact Sight.put_self _ _ _
      · rw [closedIf_files (fun hn' => absurd hn' ho), ht.files n hn (by simp), h.others n hd ho]
  · exact houter.1.trans (hinner.1.trans (ht.mask.trans h.mask))
  · exact houter.2.trans (hinner.2.trans (ht.sysctls.trans h.sysctls))

theorem closing_meets {t : Sight} (devnull outFd : Nat) (result : Except Error Unit)
    {ok : Unit → Process → Prop} {err : Process → Prop}
    (h : ∀ p, Is calm (tidied devnull outFd t) p → Ends ok err (result, p)) :
    Meets (do
        closeIf (outFd ≠ devnull && outFd > stderrFileno) outFd
        closeIf (devnull > stderrFileno) devnull
        ofExcept result)
      (Is calm t) ok err := by
  apply (closeIf_meets _ outFd t).bind
  intro _
  apply (closeIf_meets _ devnull _).bind
  intro _
  exact meets_ofExcept h

theorem redirectStdio_meets (hpass : calm → Passable logFile) (s : Sight) :
    Meets (redirectStdio logFile) (Is calm s)
      (fun _ p => ∃ t, Redirected logFile t ∧ Beyond s none t ∧ Is calm t p)
      (fun p => ¬ calm ∧ ∃ leak, Beyond s leak (sight p)) := by
  apply ((openFd_meets (fun _ => by decide) oRdwr 0 s).weaken_err _).bind
  · intro devnull
    apply meets_and
    intro hd
    apply ((openOut_meets hpass hd).weaken_err _).bind
    · intro outFd
      apply meets_exists
      intro t
      apply meets_and
      intro hready
      apply (dups_meets hready).observe.bind
      intro result
      cases result with
      | ok u =>
        apply meets_exists
        intro t'
        apply meets_and
        intro hred
        apply meets_and
        intro hbeyond
        apply closing_meets
        intro p hp
        exact ⟨_, tidied_redirected hred devnull outFd, tidied_beyond hready hbeyond, hp⟩
      | error e =>
        apply meets_exists
        intro t'
        apply meets_and
        intro hbeyond p hp
        refine closing_meets devnull outFd (.error e) ?_ p hp.toIs
        intro p' hp'
        refine ⟨hp.disturbed, none, ?_⟩
        rw [hp'.sight_eq]
        exact tidied_beyond hready hbeyond
    · intro p hp
      refine ⟨hp.disturbed, some devnull, ?_⟩
      rw [hp.sight_eq]
      refine ⟨?_, ?_, rfl, rfl⟩
      · intro n _ hleak
        exact s.put_of_ne (fun hn => hleak (congrArg some hn)) _
      · intro fd hfd
        rw [← Option.some.inj hfd]
        exact hd.free
  · intro p hp
    refine ⟨hp.disturbed, none, ?_⟩
    rw [hp.sight_eq]
    exact Beyond.refl s

/-- Whichever descriptors a daemon is started with, the standard streams among
them or not: once stdio has been redirected, input comes from `/dev/null`,
both outputs go to the log file or to `/dev/null`, and every other descriptor is
as it was. If it fails, nothing above the standard streams is lost, and above
them at most one descriptor more is open. It does not fail unless a call does or
the path cannot be passed on. -/
theorem stdio_redirected {logFile : Option String} {p p' : Process} {result : Except Error Unit}
    (h : redirectStdio logFile p = (result, p')) :
    p'.mask = p.mask ∧ p'.sysctls = p.sysctls ∧
    (result = .ok () → file p'.files stdinFileno = some nullFile ∧
      file p'.files stdoutFileno = some (outFile logFile) ∧
      file p'.files stderrFileno = some (outFile logFile) ∧
      ∀ n > stderrFileno, file p'.files n = file p.files n) ∧
    (∀ e, result = .error e → ∃ fd, file p.files fd = none ∧
      ∀ n > stderrFileno, n ≠ fd → file p'.files n = file p.files n) ∧
    (Calm p → Passable logFile → result = .ok ()) := by
  have hp : Is (Calm p ∧ Passable logFile) (sight p) p := ⟨rfl, And.left⟩
  have hends := redirectStdio_meets And.right (sight p) p hp
  rw [h] at hends
  cases result with
  | ok u =>
    obtain ⟨t, hred, hbeyond, ⟨rfl, -⟩⟩ := hends
    refine ⟨hbeyond.mask, hbeyond.sysctls, ?_, ?_, fun _ _ => rfl⟩
    · intro _
      exact ⟨hred.stdin, hred.stdout, hred.stderr, fun n hn => hbeyond.files n hn (by simp)⟩
    · intro e he
      cases he
  | error e =>
    obtain ⟨hdisturbed, leak, hbeyond⟩ := hends
    refine ⟨hbeyond.mask, hbeyond.sysctls, ?_, ?_, fun hc hpass => absurd ⟨hc, hpass⟩ hdisturbed⟩
    · intro he
      cases he
    · intro _ _
      cases leak with
      | none => exact ⟨lowest p.files, file_lowest p.files, fun n hn _ => hbeyond.files n hn (by simp)⟩
      | some fd =>
        refine ⟨fd, hbeyond.free fd rfl, fun n hn hne => hbeyond.files n hn ?_⟩
        exact fun heq => hne (Option.some.inj heq)

/-- A shell that was started without a standard output. -/
def sampleProcess : Process where
  files := [some (.inherited 0), none, some (.inherited 2), some (.inherited 3)]
  mask := []
  sysctls := fun _ => "0\n"
  answers := []

theorem stdio_redirected_closedOutput :
    ∃ p', redirectStdio (some "natstream.log") sampleProcess = (.ok (), p') ∧
      file p'.files stdinFileno = some nullFile ∧
      file p'.files stdoutFileno = some (outFile (some "natstream.log")) ∧
      file p'.files 3 = some (.inherited 3) := by
  have hcalm : Calm sampleProcess := by
    intro answer hmem
    cases hmem
  have hpass : Passable (some "natstream.log") := by
    intro path hpath
    rw [← Option.some.inj hpath]
    decide
  obtain ⟨-, -, hok, -, hresult⟩ := stdio_redirected
    (show redirectStdio (some "natstream.log") sampleProcess = (_, _) from rfl)
  have hdone := hresult hcalm hpass
  obtain ⟨hin, hout, -, hothers⟩ := hok hdone
  exact ⟨_, Prod.ext hdone rfl, hin, hout, hothers 3 (by decide)⟩

end NatStream.Daemon.Stdio
