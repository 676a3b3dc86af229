import IntelAmt.Ider.Protocol

/-!
# Virtual media

One backing file attached to a device slot.  What the constructor checks is
kept as fields of the structure: the size is a whole number of 512-byte
sectors, and CD/DVD media is never writable.
-/

namespace IntelAmt
namespace Ider

open Foundation

/-- The IDE-R protocol failures of the engine and of the media it serves. -/
inductive ProtocolError where
  | tornDown
  | sequenceMismatch (expected got : Nat)
  | unknownCommand (cmdid : UInt8)
  | openSessionReply (proto readbfr writebfr : Nat)
  | readOnlyWrite
  | outOfBoundsWrite (offset length size : Nat)
deriving DecidableEq, Repr

def hexadecimal (n : Nat) : String :=
  "0x" ++ String.ofList (Nat.toDigits 16 n)

def ProtocolError.message : ProtocolError -> String
  | tornDown => "IDE-R session already torn down; feed() called after teardown"
  | sequenceMismatch expected got =>
      "IDE-R inbound sequence mismatch: expected " ++ toString expected ++
        ", got " ++ toString got ++ "; session torn down, no resync"
  | unknownCommand cmdid =>
      "unknown inbound IDE-R command id " ++ hexadecimal cmdid.toNat ++
        "; session torn down"
  | openSessionReply proto readbfr writebfr =>
      "OPEN_SESSION_REPLY failed validation: proto=" ++ toString proto ++
        ", readbfr=" ++ toString readbfr ++
        ", writebfr=" ++ toString writebfr
  | readOnlyWrite =>
      "internal error: write attempted against a read-only media image"
  | outOfBoundsWrite offset length size =>
      "refusing out-of-bounds write: offset " ++ toString offset ++ " + " ++
        toString length ++ " bytes exceeds image size " ++ toString size

/-!
## The filesystem a path is opened on
-/

/-- What the controller's filesystem answers about a media path.  `resolve`
gives the parts of the absolute path and fails for a path that does not exist;
`shortReads` are the cuts that other processes put on later reads. -/
structure Filesystem where
  isSymlink : String -> Bool
  resolve : String -> Option (List String)
  file : List String -> Bytes
  openable : List String -> Bool -> Bool
  shortReads : List String -> List Nat

def pathText (parts : List String) : String :=
  "/" ++ String.intercalate "/" parts

/-- The proper ancestors of a resolved path. -/
def pathParents (parts : List String) : List (List String) :=
  (List.range parts.length).map parts.take

inductive OpenError where
  | value (message : String)
  | os
deriving DecidableEq, Repr

def validatePath (fs : Filesystem) (path : String)
    (allowedDirectory : Option String) : Except OpenError (List String) :=
  -- the leaf is looked at before resolving, which would follow the symlink
  if fs.isSymlink path then
    .error (.value ("refusing to open " ++ path ++
      ": symlinks are not permitted for virtual media images"))
  else
    match fs.resolve path with
    | none => .error .os
    | some resolved =>
        match allowedDirectory with
        | none => .ok resolved
        | some allowed =>
            match fs.resolve allowed with
            | none => .error .os
            | some allowedResolved =>
                if allowedResolved ≠ resolved ∧
                    allowedResolved ∉ pathParents resolved then
                  .error (.value ("refusing to open " ++ pathText resolved ++
                    ": outside allowed directory " ++
                    pathText allowedResolved))
                else .ok resolved

/-!
## Images
-/

structure MediaImage where
  path : List String
  deviceCode : DeviceCode
  size : Nat
  writable : Bool
  bytesRead : Nat := 0
  bytesWritten : Nat := 0
  mediaChangeReported : Bool := false
  /-- the backing file as it is now -/
  file : Bytes
  /-- how much the next reads return at most, when another process cuts the
  file short underneath; a read beyond the list is not cut -/
  shortReads : List Nat := []
  size_aligned : size % 512 = 0
  cdrom_read_only : deviceCode = DeviceCode.cdrom -> writable = false

namespace MediaImage

def sectorShift (image : MediaImage) : Nat :=
  match image.deviceCode with
  | DeviceCode.cdrom => 11
  | DeviceCode.floppy => 9

def blocks (image : MediaImage) : Nat := image.size >>> image.sectorShift

/-- The constructor.  A device code outside the two known ones never becomes
a `DeviceCode`. -/
def openImage (fs : Filesystem) (path : String) (deviceCode : Nat)
    (writable : Bool) (allowedDirectory : Option String) :
    Except OpenError MediaImage := do
  let device ←
    if deviceCode = DeviceCode.floppy.code.toNat then
      .ok DeviceCode.floppy
    else if deviceCode = DeviceCode.cdrom.code.toNat then
      .ok DeviceCode.cdrom
    else
      .error (.value ("unknown IDE-R device code " ++ hexadecimal deviceCode))
  if hcdrom : device = DeviceCode.cdrom ∧ writable = true then
    .error (.value ("CD/DVD (0xB0) media is read-only by design; " ++
      "pass writable=False (or attach it as DEVICE_FLOPPY instead)"))
  else
    let resolved ← validatePath fs path allowedDirectory
    let size := (fs.file resolved).length
    if haligned : size % 512 = 0 then
      if fs.openable resolved writable then
        .ok
          { path := resolved
            deviceCode := device
            size := size
            writable := writable
            file := fs.file resolved
            shortReads := fs.shortReads resolved
            size_aligned := haligned
            cdrom_read_only := by
              intro hdevice
              cases writable with
              | false => rfl
              | true => exact absurd ⟨hdevice, rfl⟩ hcdrom }
      else .error .os
    else
      .error (.value ("image " ++ pathText resolved ++ " is " ++
        toString size ++ " bytes, which is not a multiple of 512"))

/-- An image as the constructor leaves it. -/
structure Fresh (image : MediaImage) : Prop where
  file_length : image.file.length = image.size
  bytesRead : image.bytesRead = 0
  bytesWritten : image.bytesWritten = 0
  mediaChangeReported : image.mediaChangeReported = false

theorem openImage_fresh {fs : Filesystem} {path : String} {deviceCode : Nat}
    {writable : Bool} {allowedDirectory : Option String} {image : MediaImage}
    (h : openImage fs path deviceCode writable allowedDirectory = .ok image) :
    image.Fresh := by
  unfold openImage at h
  simp only [bind, Except.bind] at h
  repeat' split at h
  all_goals cases h
  all_goals exact ⟨rfl, rfl, rfl, rfl⟩

/-- An image over a file of zeros. -/
def blank (path : List String) (deviceCode : DeviceCode) (sectors : Nat)
    (writable : Bool)
    (h : deviceCode = DeviceCode.cdrom -> writable = false) : MediaImage where
  path := path
  deviceCode := deviceCode
  size := 512 * sectors
  writable := writable
  file := List.replicate (512 * sectors) 0
  size_aligned := Nat.mul_mod_right 512 sectors
  cdrom_read_only := h

theorem blank_fresh (path : List String) (deviceCode : DeviceCode)
    (sectors : Nat) (writable : Bool)
    (h : deviceCode = DeviceCode.cdrom -> writable = false) :
    (blank path deviceCode sectors writable h).Fresh where
  file_length := List.length_replicate
  bytesRead := rfl
  bytesWritten := rfl
  mediaChangeReported := rfl

/-!
## Reading and writing
-/

/-- Seek and read.  A read past the end of the file returns what is there. -/
def read (image : MediaImage) (offset length : Nat) : Bytes × MediaImage :=
  let data := (slice image.file offset length).take
    (image.shortReads.headD length)
  (data,
    { image with
      bytesRead := image.bytesRead + data.length
      shortReads := image.shortReads.tail })

/-- Seek, write and flush.  The backing file is never grown. -/
def write (image : MediaImage) (offset : Nat) (data : Bytes) :
    Except ProtocolError MediaImage :=
  if image.writable = false then
    .error .readOnlyWrite
  else if image.size < offset + data.length then
    .error (.outOfBoundsWrite offset data.length image.size)
  else
    .ok
      { image with
        file := splice image.file offset data
        bytesWritten := image.bytesWritten + data.length }

theorem blocks_shift_le (image : MediaImage) :
    image.blocks * 2 ^ image.sectorShift ≤ image.size := by
  rw [blocks, Nat.shiftRight_eq_div_pow]
  exact Nat.div_mul_le_self _ _

section Read

variable {image image' : MediaImage} {offset length : Nat} {data : Bytes}

theorem read_length_le (h : image.read offset length = (data, image')) :
    data.length ≤ length := by
  cases h
  have := slice_length_le image.file offset length
  simp only [List.length_take]
  lia

theorem read_eq_slice (h : image.read offset length = (data, image'))
    (hshort : image.shortReads = []) :
    data = slice image.file offset length := by
  cases h
  rw [hshort, List.headD_nil]
  exact List.take_of_length_le (slice_length_le _ _ _)

end Read

/-- Two images that hold the same content and stand for the same medium; only
what reads and status requests count may differ. -/
structure SameDisk (image image' : MediaImage) : Prop where
  path : image'.path = image.path
  deviceCode : image'.deviceCode = image.deviceCode
  size : image'.size = image.size
  writable : image'.writable = image.writable
  bytesWritten : image'.bytesWritten = image.bytesWritten
  file : image'.file = image.file
  shortReads : image.shortReads = [] -> image'.shortReads = []

theorem SameDisk.refl (image : MediaImage) : image.SameDisk image :=
  ⟨rfl, rfl, rfl, rfl, rfl, rfl, id⟩

theorem SameDisk.trans {image image' image'' : MediaImage}
    (h : image.SameDisk image') (h' : image'.SameDisk image'') :
    image.SameDisk image'' where
  path := h'.path.trans h.path
  deviceCode := h'.deviceCode.trans h.deviceCode
  size := h'.size.trans h.size
  writable := h'.writable.trans h.writable
  bytesWritten := h'.bytesWritten.trans h.bytesWritten
  file := h'.file.trans h.file
  shortReads := fun hshort => h'.shortReads (h.shortReads hshort)

theorem SameDisk.blocks {image image' : MediaImage}
    (h : image.SameDisk image') : image'.blocks = image.blocks := by
  simp [MediaImage.blocks, sectorShift, h.deviceCode, h.size]

theorem read_sameDisk {image image' : MediaImage} {offset length : Nat}
    {data : Bytes} (h : image.read offset length = (data, image')) :
    image.SameDisk image' := by
  cases h
  exact ⟨rfl, rfl, rfl, rfl, rfl, rfl, fun hshort => by simp [hshort]⟩

theorem write_eq_ok {image image' : MediaImage} {offset : Nat} {data : Bytes}
    (h : image.write offset data = .ok image') :
    image.writable = true ∧ offset + data.length ≤ image.size ∧
      image' =
        { image with
          file := splice image.file offset data
          bytesWritten := image.bytesWritten + data.length } := by
  unfold write at h
  split at h
  · cases h
  · split at h
    · cases h
    · rename_i hwritable hbounds
      cases h
      exact ⟨by simpa using hwritable, by lia, rfl⟩

end MediaImage
end Ider
end IntelAmt
