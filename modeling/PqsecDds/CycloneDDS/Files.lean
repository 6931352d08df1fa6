import PqsecDds.CycloneDDS.AuthUtils
import PqsecDds.Lib.Stdio

/-!
# Reading files (`load_file_into_BIO`, auth_utils.c:313-398)

Certificates, private keys and CRLs come from files. The size of the file is found out first, then its contents are copied
in blocks of 512 octets. Both can disagree, when the file is written to in the meantime, and each read and each write can
fail. `file_loaded_iff` says when there is a result, and what it is: a file that stays as it is is loaded octet by octet,
but one that has grown may be cut off, and a block that `BIO_write` fails to store is missing.
-/

namespace PqsecDds.CycloneDDS

open Lib

variable {κ ρ : Type} {filename : CStr} {bio bio' : Octets} {write : Nat → Int} {contents : Octets} {broken : Bool}
variable {size remain i k : Nat}

/-! ## `load_file_into_BIO` -/

/-- The `while` of auth_utils.c:368-379. `write i` is the result of the `i`-th `BIO_write`; a memory BIO stores all of the
block, or nothing and returns -1. -/
def copyBlocks (write : Nat → Int) (fp : Stream UInt8) (remain i : Nat) (bio : Octets) :
    Except SecurityException (Stream UInt8 × Octets) :=
  if fp.eof || fp.error then .ok (fp, bio)
  else if (fp.fread 512).1.length = 0 ∨ remain = 0 then .ok ((fp.fread 512).2, bio)
  else if write i = 0 then .error (message "load_file_into_BIO: failed to append data to BIO")
  else
    copyBlocks write (fp.fread 512).2 (remain - min (fp.fread 512).1.length remain) (i + 1)
      (if 0 < write i then bio ++ (fp.fread 512).1 else bio)
termination_by fp.rest.length
decreasing_by
  simp only [Stream.fread, List.length_take, List.length_drop] at *
  omega

/-- A file, as `load_file_into_BIO` finds it. -/
structure OpenFile where
  contents : Octets
  /-- a read error stands behind the contents -/
  broken : Bool := false
  seekEnd : Bool := true
  /-- `ftell` at the end of the file -/
  size : Int
  errno : Bool := false
  seekSet : Bool := true

structure FileAccess where
  bioNew : Bool := true
  fopen : CStr → Option OpenFile
  write : Nat → Int

def loadFileIntoBio (files : FileAccess) (filename : CStr) : Except SecurityException Octets := do
  require files.bioNew (message "load_file_into_BIO: BIO_new_mem (BIO_s_mem ())")
  let file ← need (files.fopen filename) (.invalidFilePath filename)
  require file.seekEnd (message "load_file_into_BIO: seek to end failed")
  require (0 ≤ file.size && !file.errno) (message "load_file_into_BIO: ftell failed")
  require file.seekSet (message "load_file_into_BIO: seek to begin failed")
  let (fp, bio) ← copyBlocks files.write { rest := file.contents, broken := file.broken } file.size.toNat 0 []
  require (fp.eof && !fp.error) (message "load_file_into_BIO: read from failed")
  return bio

/-! ## The loop -/

/-- The blocks that are written: those of the contents, but no more than the size has. -/
def writes (contents : Octets) (size : Nat) : Nat := min (blockCount 512 contents.length) (blockCount 512 size)

/-- What block `i` leaves in the BIO. -/
def stored (write : Nat → Int) (contents : Octets) (i : Nat) : Octets :=
  if 0 < write i then block 512 contents i else []

theorem lt_writes_succ : contents.length < 512 * (writes contents size + 1) ↔
    contents.length < 512 * (blockCount 512 size + 1) := by
  simp only [writes, blockCount]
  omega

theorem lt_writes : i < writes contents size ↔ 512 * i < contents.length ∧ 512 * i < size := by
  simp only [writes, blockCount]
  omega

/-- The flags stop the loop before a short block; that block was the last. -/
theorem copyBlocks_done (hbound : writes contents size ≤ i)
    (hremain : contents.length < 512 * i ∨ remain = size - 512 * i) :
    copyBlocks write (Stream.at 512 contents broken i) remain i bio =
      .ok (Stream.at 512 contents broken (i + 1), bio) := by
  rw [copyBlocks]
  by_cases hshort : contents.length < 512 * i
  · have hflag : ((Stream.at 512 contents broken i).eof || (Stream.at 512 contents broken i).error) = true := by
      simp [Stream.at, hshort]
    rw [if_pos hflag, Stream.at_succ_of_short hshort]
  · have hflag : ¬ ((Stream.at 512 contents broken i).eof || (Stream.at 512 contents broken i).error) = true := by
      simp [Stream.at, hshort]
    have hremain : remain = size - 512 * i := hremain.resolve_left hshort
    have hbound : ¬ (512 * i < contents.length ∧ 512 * i < size) := by
      rw [← lt_writes]
      omega
    have hstop : (block 512 contents i).length = 0 ∨ remain = 0 := by
      rw [length_block]
      omega
    simp only [if_neg hflag, Stream.fread_at]
    rw [if_pos hstop]

variable (bio write broken) in
theorem copyBlocks_next (hi : i < writes contents size) (hremain : contents.length < 512 * i ∨ remain = size - 512 * i) :
    ∃ remain', (contents.length < 512 * (i + 1) ∨ remain' = size - 512 * (i + 1)) ∧
      copyBlocks write (Stream.at 512 contents broken i) remain i bio =
        if write i = 0 then .error (message "load_file_into_BIO: failed to append data to BIO")
        else copyBlocks write (Stream.at 512 contents broken (i + 1)) remain' (i + 1) (bio ++ stored write contents i) := by
  obtain ⟨hmore, hsize⟩ := lt_writes.1 hi
  have hshort : ¬ contents.length < 512 * i := by omega
  have hremain : remain = size - 512 * i := hremain.resolve_left hshort
  have hflag : ¬ ((Stream.at 512 contents broken i).eof || (Stream.at 512 contents broken i).error) = true := by
    simp [Stream.at, hshort]
  have hgo : ¬ ((block 512 contents i).length = 0 ∨ remain = 0) := by
    rw [length_block]
    omega
  have hbio : (if 0 < write i then bio ++ block 512 contents i else bio) = bio ++ stored write contents i := by
    rw [stored]
    split
    · rfl
    · rw [List.append_nil]
  refine ⟨remain - min (block 512 contents i).length remain, ?_, ?_⟩
  · rw [length_block]
    omega
  · rw [copyBlocks]
    simp only [if_neg hflag, Stream.fread_at]
    rw [if_neg hgo, hbio]

/-- The loop from block `i` on, `k` blocks before its end. -/
theorem copyBlocks_ok (hk : writes contents size = i + k)
    (hremain : contents.length < 512 * i ∨ remain = size - 512 * i) (fp : Stream UInt8) :
    copyBlocks write (Stream.at 512 contents broken i) remain i bio = .ok (fp, bio') ↔
      (∀ j, i ≤ j → j < i + k → write j ≠ 0) ∧ fp = Stream.at 512 contents broken (i + k + 1) ∧
      bio' = bio ++ (List.range' i k).flatMap (stored write contents) := by
  induction k generalizing i remain bio with
  | zero =>
    have hbound : writes contents size ≤ i := by omega
    rw [copyBlocks_done hbound hremain]
    simp only [Except.ok.injEq, Prod.mk.injEq, Nat.add_zero, List.range'_zero, List.flatMap_nil, List.append_nil]
    constructor
    · rintro ⟨rfl, rfl⟩
      exact ⟨fun j hle hlt => absurd hlt (Nat.not_lt.2 hle), rfl, rfl⟩
    · rintro ⟨-, rfl, rfl⟩
      exact ⟨rfl, rfl⟩
  | succ k ih =>
    have hi : i < writes contents size := by omega
    obtain ⟨remain', hremain', hnext⟩ := copyBlocks_next bio write broken hi hremain
    have hk' : writes contents size = i + 1 + k := by omega
    have hend : i + 1 + k + 1 = i + (k + 1) + 1 := by omega
    rw [hnext]
    by_cases hwrite : write i = 0
    · rw [if_pos hwrite]
      constructor
      · intro h
        cases h
      · rintro ⟨hall, -, -⟩
        exact absurd hwrite (hall i (Nat.le_refl i) (by omega))
    · rw [if_neg hwrite, ih hk' hremain', hend, List.range'_succ, List.flatMap_cons, List.append_assoc]
      refine and_congr_left fun _ => ?_
      constructor
      · intro hall j hle hlt
        rcases Nat.eq_or_lt_of_le hle with rfl | hlt'
        · exact hwrite
        · exact hall j hlt' (by omega)
      · intro hall j hle hlt
        exact hall j (by omega) (by omega)

/-! ## Loading a file -/

/-- The size of the file can be found out. -/
structure OpenFile.Seekable (file : OpenFile) : Prop where
  seekEnd : file.seekEnd = true
  size : 0 ≤ file.size
  errno : file.errno = false
  seekSet : file.seekSet = true

/-- What `load_file_into_BIO` finds in `file`: all of it can be read, it has grown by less than a block since its size was
found out, and no write returns 0. -/
structure Copied (write : Nat → Int) (file : OpenFile) (bio : Octets) : Prop where
  readable : file.broken = false
  length : file.contents.length < 512 * (blockCount 512 file.size.toNat + 1)
  written : ∀ i < writes file.contents file.size.toNat, write i ≠ 0
  contents : bio = (List.range (writes file.contents file.size.toNat)).flatMap (stored write file.contents)

theorem loadFileIntoBio_ok {files : FileAccess} : loadFileIntoBio files filename = .ok bio ↔
    files.bioNew = true ∧ ∃ file, files.fopen filename = some file ∧ file.Seekable ∧ Copied files.write file bio := by
  have hloop : ∀ (file : OpenFile) (fp : Stream UInt8) (bio : Octets),
      copyBlocks files.write { rest := file.contents, broken := file.broken } file.size.toNat 0 [] = .ok (fp, bio) ↔
        (∀ i < writes file.contents file.size.toNat, files.write i ≠ 0) ∧
        fp = Stream.at 512 file.contents file.broken (writes file.contents file.size.toNat + 1) ∧
        bio = (List.range (writes file.contents file.size.toNat)).flatMap (stored files.write file.contents) := by
    intro file fp bio
    have hcount : writes file.contents file.size.toNat = 0 + writes file.contents file.size.toNat := by omega
    have hremain : file.contents.length < 512 * 0 ∨ file.size.toNat = file.size.toNat - 512 * 0 := by omega
    rw [← Stream.at_zero (n := 512), copyBlocks_ok hcount hremain, Nat.zero_add, List.nil_append, List.range_eq_range']
    simp only [Nat.zero_le, forall_true_left]
  have hend : ∀ file : OpenFile,
      ((Stream.at 512 file.contents file.broken (writes file.contents file.size.toNat + 1)).eof &&
        !(Stream.at 512 file.contents file.broken (writes file.contents file.size.toNat + 1)).error) = true ↔
      file.broken = false ∧ file.contents.length < 512 * (blockCount 512 file.size.toNat + 1) := by
    intro file
    cases hbroken : file.broken with
    | true => simp [Stream.at]
    | false => simp [Stream.at, lt_writes_succ]
  simp only [loadFileIntoBio, bind_ok, need_ok, require_ok, pure_ok, Bool.and_eq_true, decide_eq_true_eq,
    Bool.not_eq_true', Prod.exists]
  constructor
  · rintro ⟨-, hnew, file, hopen, -, hstart, -, ⟨hsize, herrno⟩, -, hset, fp, bio', hcopy, -, hflags, rfl⟩
    obtain ⟨hall, rfl, rfl⟩ := (hloop file fp bio').1 hcopy
    obtain ⟨hbroken, hlen⟩ := (hend file).1 (by simpa using hflags)
    exact ⟨hnew, file, hopen, ⟨hstart, hsize, herrno, hset⟩, hbroken, hlen, hall, rfl⟩
  · rintro ⟨hnew, file, hopen, hseek, hbroken, hlen, hall, rfl⟩
    have hflags := (hend file).2 ⟨hbroken, hlen⟩
    exact ⟨(), hnew, file, hopen, (), hseek.seekEnd, (), ⟨hseek.size, hseek.errno⟩, (), hseek.seekSet, _, _,
      (hloop file _ _).2 ⟨hall, rfl, rfl⟩, (), by simpa using hflags, rfl⟩

/-- Blocks that are all stored are the beginning of the file: all of it, or what the size has of it in whole blocks. -/
theorem flatMap_stored (hall : ∀ i < writes contents size, 0 < write i) :
    (List.range (writes contents size)).flatMap (stored write contents) = contents.take (512 * blockCount 512 size) := by
  have hblocks : (List.range (writes contents size)).flatMap (stored write contents) =
      (List.range (writes contents size)).flatMap (block 512 contents) := by
    refine List.flatMap_congr fun i hi => ?_
    rw [stored, if_pos (hall i (List.mem_range.1 hi))]
  rw [hblocks, flatMap_block]
  by_cases hlen : blockCount 512 contents.length ≤ blockCount 512 size
  · have hall : contents.length ≤ 512 * writes contents size := by
      simp only [writes, blockCount] at hlen ⊢
      omega
    have hall' : contents.length ≤ 512 * blockCount 512 size := by
      simp only [blockCount] at hlen ⊢
      omega
    rw [List.take_of_length_le hall, List.take_of_length_le hall']
  · rw [writes, Nat.min_eq_right (by omega)]

/-- A file that stays as it is, is loaded as it is. -/
theorem OpenFile.copied {file : OpenFile} (hreadable : file.broken = false) (hsame : file.size = file.contents.length)
    (hall : ∀ i, 0 < write i) : Copied write file file.contents := by
  have hsize : file.size.toNat = file.contents.length := by omega
  have hbound : file.contents.length ≤ 512 * blockCount 512 file.size.toNat := by
    rw [hsize, blockCount]
    omega
  refine ⟨hreadable, by omega, fun i _ => Int.ne_of_gt (hall i), ?_⟩
  rw [flatMap_stored fun i _ => hall i, List.take_of_length_le hbound]

/-! ## Certificates -/

/-- The plugin that reads its files with `load_file_into_BIO`. -/
def Env.reading (env : Env κ ρ) (files : FileAccess) : Env κ ρ :=
  { env with readFile := fun filename => (loadFileIntoBio files filename).toOption }

theorem readFile_reading {env : Env κ ρ} {files : FileAccess} :
    (env.reading files).readFile filename = some bio ↔ loadFileIntoBio files filename = .ok bio := by
  show (loadFileIntoBio files filename).toOption = some bio ↔ _
  cases loadFileIntoBio files filename <;> simp [Except.toOption]

/-- A file that nobody writes to is read octet by octet. -/
theorem readFile_unchanged (env : Env κ ρ) {files : FileAccess} {file : OpenFile} (hnew : files.bioNew = true)
    (hopen : files.fopen filename = some file) (hseek : file.Seekable) (hreadable : file.broken = false)
    (hsame : file.size = file.contents.length) (hall : ∀ i, 0 < files.write i) :
    (env.reading files).readFile filename = some file.contents := by
  rw [readFile_reading, loadFileIntoBio_ok]
  exact ⟨hnew, file, hopen, hseek, OpenFile.copied hreadable hsame hall⟩

/-- **Certificates from files.** `load_X509_certificate_from_file` succeeds if and only if the file can be opened and its
size found out, all of it can be read, it has grown by less than a block in the meantime, no `BIO_write` returns 0, and
there is a certificate in what the writes have stored, of as many blocks as the size has. -/
theorem certificate_from_file (env : Env κ ρ) (amb : Ambient ρ) (files : FileAccess) (filename : CStr) (cert : X509) :
    loadX509CertificateFromFile (env.reading files) amb filename = .ok cert ↔
      files.bioNew = true ∧ ∃ file, files.fopen filename = some file ∧ file.Seekable ∧ file.broken = false ∧
        file.contents.length < 512 * (blockCount 512 file.size.toNat + 1) ∧
        (∀ i < writes file.contents file.size.toNat, files.write i ≠ 0) ∧
        loadX509CertificateFromBio env amb
          ((List.range (writes file.contents file.size.toNat)).flatMap (stored files.write file.contents)) = .ok cert := by
  have hbio : ∀ bio, loadX509CertificateFromBio (env.reading files) amb bio = loadX509CertificateFromBio env amb bio :=
    fun bio => rfl
  simp only [loadX509CertificateFromFile, bind_ok, need_ok, readFile_reading, loadFileIntoBio_ok, hbio]
  constructor
  · rintro ⟨bio, ⟨hnew, file, hopen, hseek, hreadable, hlen, hall, rfl⟩, hcert⟩
    exact ⟨hnew, file, hopen, hseek, hreadable, hlen, hall, hcert⟩
  · rintro ⟨hnew, file, hopen, hseek, hreadable, hlen, hall, hcert⟩
    exact ⟨_, ⟨hnew, file, hopen, hseek, hreadable, hlen, hall, rfl⟩, hcert⟩

end PqsecDds.CycloneDDS
