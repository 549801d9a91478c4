import VertexOS.VertexFsSlices

/-!
# The parser is safe

No read is out of range, no sum overflows, and the answer is that of the plain parser.
-/

namespace VertexOS

open ByteStrings ByteImages CheckedSlices FailingCalls VertexFsLayout VertexFsSection

def VertexFsSection.slice (part : VertexFsSection) (image : Image) : Slice where
  bytes offset := image (part.firstSector * vertexFsSectorSize + offset)
  length := part.byteCount

namespace VertexFsSlices

section

variable {α : Type} {good : α → Prop}

theorem safe_check_bind {reason : String} {holds : Prop} [Decidable holds]
    {next : Unit → Parse α} (rest : holds → Safe good (next ())) :
    Safe good (check reason holds >>= next) := by
  by_cases decided : holds
  · exact .value (by rw [check, if_pos decided]) (rest decided)
  · unfold check
    rw [if_neg decided]
    exact .error _

theorem safe_check {reason : String} {holds : Prop} [Decidable holds] {good : Unit → Prop}
    (enough : holds → good ()) : Safe good (check reason holds) := by
  unfold check
  exact .ite enough fun _ => .error _

theorem safe_reject (reason : String) : Safe good (reject reason : Parse α) :=
  .error _

theorem safe_fromRejection (outcome : Except VertexFsRejection α) :
    Safe (outcome = .ok ·) (fromRejection outcome) := by
  cases outcome with
  | ok value => exact rfl
  | error rejection => exact .error _

theorem safe_isErr {call : Parse α} (safe : Safe good call) :
    Safe (fun failed => failed = false → ∃ value, good value) (isErr call) := by
  rcases call with (_ | _ | _) | value
  · exact .pure (by simp)
  · exact safe.elim
  · exact safe.elim
  · exact .pure fun _ => ⟨value, safe⟩

end

section

variable {part : VertexFsSection} {image : Slice}

theorem safe_vertexfsSection (image : Slice) (part : VertexFsSection) :
    Safe (· = part.slice image.bytes) (vertexfsSection image part) := by
  refine safe_check_bind fun _ => safe_check_bind fun _ => safe_check_bind fun _ => ?_
  split
  · next found =>
      rw [(get_eq_some found).2, Nat.add_sub_cancel_left]
      exact .pure rfl
  · exact safe_reject _

theorem safe_vertexfsSector (image : Slice) (part : VertexFsSection)
    (single : part.sectorCount = 1) :
    Safe (· = part.slice image.bytes) (vertexfsSector image part.firstSector) := by
  refine safe_check_bind fun _ => safe_check_bind fun _ => ?_
  split
  · next found =>
      exact .pure (by
        simp [(get_eq_some found).2, slice, byteCount, single])
  · exact safe_reject _

variable {image : Image}

theorem readLe_slice (width offset : Nat) :
    readLe width (part.slice image).bytes offset = readLe width image (part.address offset) :=
  readLe_shift image _ width offset

theorem readBytes_slice (offset length : Nat) :
    readBytes (part.slice image).bytes offset length =
      readBytes image (part.address offset) length :=
  readBytes_shift image _ offset length

theorem number_slice {width offset : Nat} (inside : offset + width ≤ part.byteCount) :
    (part.slice image).number width offset =
      (.ok (readLe width image (part.address offset)) : Parse Nat) := by
  rw [number_ok inside, readLe_slice]

theorem magicMatches_slice {magic : Bytes} (inside : magic.length ≤ part.byteCount) :
    magicMatches (part.slice image) magic = .ok (vertexFsMagicMatches image part magic) := by
  unfold magicMatches vertexFsMagicMatches
  rw [field_ok (by simpa [slice] using inside), readBytes_slice]
  rfl

theorem checksumValid_slice (long : 24 ≤ part.byteCount) (short : part.byteCount < 2 ^ 32) :
    checksumValid (part.slice image) = .ok (vertexFsChecksumValid image part) := by
  unfold checksumValid checksum32
  rw [number_slice (by simpa [vertexFsChecksumOffset] using long)]
  have zeroed : readBytes (writeLe 4 (part.slice image).bytes vertexFsChecksumOffset 0) 0
      part.byteCount = readBytes (writeLe 4 image (part.address vertexFsChecksumOffset) 0)
        (part.address 0) part.byteCount := by
    unfold writeLe slice
    rw [writeBytes_shift, readBytes_shift]
    rfl
  have summed : vertexFsSectionChecksum image part = vertexFsChecksum32
      (readBytes (writeLe 4 (part.slice image).bytes vertexFsChecksumOffset 0) 0 part.byteCount) :=
    congrArg vertexFsChecksum32 zeroed.symm
  unfold vertexFsChecksumValid
  rw [if_pos (by exact short), summed]
  rfl

theorem safe_fixedString (buffer : Slice) (offset maxLen : Nat) :
    Safe (fun text => vertexFsFixedString (readBytes buffer.bytes offset maxLen) = .ok text)
      (fixedString buffer offset maxLen) := by
  unfold fixedString
  refine .ite (fun _ => safe_reject _) fun inside => ?_
  exact .value (field_ok (by omega)) (safe_fromRejection _)

theorem safe_fixedStringEq (buffer : Slice) (offset maxLen : Nat) (expected : Bytes) :
    Safe (fun same => same = true →
        vertexFsFixedStringEq (readBytes buffer.bytes offset maxLen) expected = true)
      (fixedStringEq buffer offset maxLen expected) := by
  unfold fixedStringEq
  refine .ite (fun _ => .pure (by simp)) fun inside => ?_
  exact .value (field_ok (by omega)) (.pure id)

end

/-- The layout is placed, and its dynamic files have room in the arrays of the parser. -/
structure Ready (layout : VertexFsLayout) : Prop where
  placed : layout.Placed
  capacity : layout.dynamicFileCapacity ≤ maxVertexFsFiles

theorem ready_of_layoutFromSuperblock {image : Image} {layout : VertexFsLayout}
    (format : vertexFsLayoutFromSuperblock image = .ok layout) : Ready layout := by
  refine ⟨placed_of_layoutFromSuperblock format, ?_⟩
  unfold vertexFsLayoutFromSuperblock at format
  split_ifs at format
  · cases format
    decide
  · cases format
    decide
  · exact absurd format rejectVertexFsImage_ne_ok

theorem safe_layoutFromSuperblock (image : Image) :
    Safe (fun layout => vertexFsLayoutFromSuperblock image = .ok layout)
      (layoutFromSuperblock (vertexFsSuperblock.slice image)) := by
  unfold layoutFromSuperblock vertexFsLayoutFromSuperblock
  refine .value (magicMatches_slice (by decide)) ?_
  split_ifs with newer older
  · exact .pure rfl
  · exact .value (magicMatches_slice (by decide)) (by rw [if_pos older]; exact .pure rfl)
  · exact .value (magicMatches_slice (by decide)) (by rw [if_neg older]; exact safe_reject _)

theorem safe_layoutForImage (image : Slice) :
    Safe (fun layout => vertexFsLayoutFromSuperblock image.bytes = .ok layout)
      (layoutForImage image) := by
  refine .bind (safe_vertexfsSector image vertexFsSuperblock rfl) fun _ same => ?_
  subst same
  exact safe_layoutFromSuperblock image.bytes

section Layouts

variable {layout : VertexFsLayout} (ready : Ready layout) (image : Image) {position : Nat}

theorem superblock_address (offset : Nat) : vertexFsSuperblock.address offset = offset := by
  simp [vertexFsSuperblock, address]

theorem inodeOffset_ok (small : position < 2 ^ 32) :
    inodeOffset position = .ok (vertexFsInodeEntryOffset + position * vertexFsInodeEntryLen) := by
  unfold inodeOffset
  rw [mul_ok (by simp only [Fits, wordLimit, vertexFsInodeEntryLen]; omega)]
  exact add_ok (by
    simp only [Fits, wordLimit, vertexFsInodeEntryOffset, vertexFsInodeEntryLen]; omega)

include ready

theorem Ready.small :
    layout.inodeTable.byteCount < 2 ^ 32 ∧ layout.directory.byteCount < 2 ^ 32 ∧
      1024 ≤ layout.inodeTable.byteCount ∧ 1024 ≤ layout.directory.byteCount := by
  have row := ready.placed.row
  have tableCount := ready.placed.tableCount
  have directoryCount := ready.placed.directoryCount
  simp only [byteCount, vertexFsSectorSize, vertexFsSectors] at *
  omega

theorem sectionMatches_slice (inside : position < 5) (part : VertexFsSection) :
    sectionMatches layout (vertexFsSuperblock.slice image) position part =
      .ok (layout.sectionMatches image position part) := by
  have room := ready.placed.sectionsFit
  have bytes : vertexFsSuperblock.byteCount = 512 := by decide
  simp only [vertexFsSectionRecordLen, vertexFsSectorSize] at room
  unfold sectionMatches VertexFsLayout.sectionMatches
  rw [mul_ok (by simp only [Fits, wordLimit, vertexFsSectionRecordLen]; omega)]
  simp only [vertexFsSectionRecordLen, bind, Except.bind]
  rw [add_ok (by simp only [Fits, wordLimit]; omega)]
  dsimp only
  rw [number_slice (by omega), number_slice (by omega), superblock_address, superblock_address]
  rfl

theorem Ready.entry_room
    (inside : position < vertexFsBaseDirectoryCount + layout.directoryDynamicFileCapacity) :
    vertexFsDirectoryEntryOffset + position * vertexFsDirectoryEntryLen + 64 ≤
      layout.directory.byteCount ∧ position < 2 ^ 32 := by
  have fits := ready.placed.entriesFit
  have short := ready.small.2.1
  simp only [vertexFsDirectoryEntryOffset, vertexFsDirectoryEntryLen,
    vertexFsBaseDirectoryCount] at *
  omega

theorem safe_directoryEntryEq {position parent child kind : Nat}
    (inside : position < vertexFsBaseDirectoryCount + layout.directoryDynamicFileCapacity)
    (name : Bytes) :
    Safe (fun same => same = true → layout.directoryEntryEq image position parent child kind name)
      (directoryEntryEq (layout.directory.slice image) position parent child kind name) := by
  obtain ⟨room, small⟩ := ready.entry_room inside
  refine .value (mul_ok (by
    simp only [Fits, wordLimit, vertexFsDirectoryEntryLen]; omega)) ?_
  refine .value (add_ok (by
    simp only [Fits, wordLimit, vertexFsDirectoryEntryOffset, vertexFsDirectoryEntryLen]
    omega)) ?_
  refine .value (number_slice (by omega)) (.value (number_slice (by omega)) ?_)
  refine .value (number_slice (by omega)) (.value (number_slice (by omega)) ?_)
  refine .bind (safe_fixedStringEq _ _ _ _) fun named holds => .pure fun same => ?_
  simp only [decide_eq_true_eq] at same
  obtain ⟨parentOk, childOk, kindOk, reservedOk, namedOk⟩ := same
  have text := holds namedOk
  rw [readBytes_slice, ← address_add] at text
  rw [← address_add] at childOk kindOk reservedOk
  simp only [VertexFsLayout.directoryEntryEq, decide_eq_true_eq]
  exact ⟨parentOk, childOk, kindOk, reservedOk, text⟩

section

variable (inside : position < vertexFsBaseInodeCount + layout.dynamicFileCapacity)
include inside

theorem Ready.inode_room :
    vertexFsInodeEntryOffset + position * vertexFsInodeEntryLen + 64 ≤
      layout.inodeTable.byteCount ∧ position < 2 ^ 32 := by
  have fits := ready.placed.inodesFit
  have capacity := ready.capacity
  simp only [vertexFsInodeEntryOffset, vertexFsInodeEntryLen, vertexFsBaseInodeCount,
    maxVertexFsFiles] at *
  omega

theorem readInode_slice :
    readInode (layout.inodeTable.slice image) position = .ok (layout.readInode image position) := by
  obtain ⟨room, small⟩ := ready.inode_room inside
  unfold readInode
  rw [inodeOffset_ok small]
  dsimp only [bind, Except.bind]
  rw [number_slice (by omega), number_slice (by omega), number_slice (by omega),
    number_slice (by omega), number_slice (by omega), number_slice (by omega),
    number_slice (by omega)]
  simp only [VertexFsLayout.readInode, VertexFsLayout.inodeOffset, ← address_add]
  rfl

theorem inodeReservedZero_slice :
    inodeReservedZero (layout.inodeTable.slice image) position =
      .ok (layout.inodeReservedZero image position) := by
  obtain ⟨room, small⟩ := ready.inode_room inside
  unfold inodeReservedZero
  rw [inodeOffset_ok small]
  dsimp only [bind, Except.bind]
  rw [number_slice (by omega)]
  simp only [VertexFsLayout.inodeReservedZero, VertexFsLayout.inodeOffset, ← address_add]
  rfl

theorem safe_inodeNameEq (expected : Bytes) :
    Safe (fun same => same = true → layout.inodeNameEq image position expected = true)
      (inodeNameEq (layout.inodeTable.slice image) position expected) := by
  refine .value (inodeOffset_ok (ready.inode_room inside).2) ?_
  refine .imp (safe_fixedStringEq _ _ _ _) fun same holds found => ?_
  have named := holds found
  rwa [readBytes_slice, ← address_add] at named

theorem safe_inodeName :
    Safe (fun name => vertexFsFixedString (layout.inodeNameField image position) = .ok name)
      (inodeName (layout.inodeTable.slice image) position) := by
  refine .value (inodeOffset_ok (ready.inode_room inside).2) ?_
  refine .imp (safe_fixedString _ _ _) fun name read => ?_
  rwa [readBytes_slice, ← address_add] at read

theorem safe_namedInode (name : Bytes) :
    Safe (fun read => read.1 = layout.readInode image position ∧
        read.2.1 = layout.inodeReservedZero image position ∧
        (read.2.2 = true → layout.inodeNameEq image position name = true))
      (namedInode (layout.inodeTable.slice image) position name) := by
  refine .value (readInode_slice ready image inside) ?_
  refine .value (inodeReservedZero_slice ready image inside) ?_
  exact .bind (safe_inodeNameEq ready image inside name) fun _ named => .pure ⟨rfl, rfl, named⟩

theorem safe_directoryInode {id parent : Nat} (name : Bytes) (reason : String) :
    Safe (fun _ => layout.directoryInodeOk image position id parent name)
      (directoryInode (layout.inodeTable.slice image) position id parent name reason) := by
  refine .bind (safe_namedInode ready image inside name) ?_
  rintro ⟨inode, reserved, named⟩ ⟨read, zero, holds⟩
  refine safe_check fun ⟨same, reservedOk, namedOk⟩ => ?_
  simp only [directoryInodeOk, decide_eq_true_eq]
  exact ⟨read ▸ same, zero ▸ reservedOk, holds namedOk⟩

theorem safe_fileInode {id parent : Nat} (name : Bytes) (reason : String) :
    Safe (fun inode => inode = layout.readInode image position ∧
        layout.fileInodeOk image position id parent name)
      (fileInode (layout.inodeTable.slice image) position id parent name reason) := by
  refine .bind (safe_namedInode ready image inside name) ?_
  rintro ⟨inode, reserved, named⟩ ⟨rfl, zero, holds⟩
  refine safe_check_bind fun ⟨idOk, kindOk, parentOk, reservedOk, namedOk⟩ => .pure ⟨rfl, ?_⟩
  simp only [fileInodeOk, decide_eq_true_eq]
  exact ⟨idOk, kindOk, parentOk, zero ▸ reservedOk, holds namedOk⟩

end

theorem safe_dynamicInode {dynamicIndex : Nat}
    (inside : dynamicIndex < layout.dynamicFileCapacity) :
    Safe (fun inode => inode = layout.readInode image (vertexFsBaseInodeCount + dynamicIndex) ∧
        layout.dynamicInodeOk image dynamicIndex)
      (dynamicInode layout (layout.inodeTable.slice image) dynamicIndex) := by
  have known : vertexFsBaseInodeCount + dynamicIndex <
      vertexFsBaseInodeCount + layout.dynamicFileCapacity := by omega
  have capacity := ready.capacity
  refine .value (add_ok ?_) ?_
  · simp only [Fits, wordLimit, vertexFsBaseInodeCount, maxVertexFsFiles] at *
    omega
  refine .value (readInode_slice ready image known) ?_
  refine .value (inodeReservedZero_slice ready image known) ?_
  refine .bind (safe_isErr (safe_inodeName ready image known)) fun unnamed named => ?_
  refine safe_check_bind ?_
  rintro ⟨idOk, kindOk, parentOk, firstOk, countOk, reservedOk, namedOk⟩
  refine .value (index_ok (by omega)) (.pure ⟨rfl, ?_⟩)
  obtain ⟨name, text⟩ := named namedOk
  simp only [dynamicInodeOk, decide_eq_true_eq]
  exact ⟨idOk, kindOk, parentOk, firstOk, countOk, reservedOk, by rw [text]; rfl⟩

end Layouts

section Tables

variable {layout : VertexFsLayout} (ready : Ready layout) (image : Slice) {inode : VertexFsInode}
  {sector : Nat}

theorem checksum32_ok {slice : Slice} (short : slice.length < 2 ^ 32) :
    checksum32 slice = .ok (vertexFsChecksum32 slice.toBytes) :=
  if_pos short

theorem extentStartsWith_true {payload : Bytes}
    (starts : extentStartsWith image inode payload = true) :
    readBytes image.bytes (inode.firstSector * vertexFsSectorSize) payload.length = payload := by
  simp only [extentStartsWith] at starts
  split_ifs at starts
  rw [Option.any_eq_true] at starts
  obtain ⟨part, found, same⟩ := starts
  have whole := (get_eq_some found).2
  rw [Nat.add_sub_cancel_left] at whole
  subst whole
  have stored := of_decide_eq_true same
  unfold Slice.toBytes at stored
  rwa [readBytes_shift, Nat.add_zero] at stored

include ready

theorem safe_parseInodeTable :
    Safe (fun inodes => layout.InodeTableOk image.bytes ∧
        inodes = layout.parsedInodes image.bytes) (parseInodeTable layout image) := by
  obtain ⟨short, -, long, -⟩ := ready.small
  have known {position : Nat} (base : position < vertexFsBaseInodeCount) :
      position < vertexFsBaseInodeCount + layout.dynamicFileCapacity := by omega
  refine .bind (safe_vertexfsSection image layout.inodeTable) fun sector same => ?_
  subst same
  refine .value (magicMatches_slice (by rw [ready.placed.inodeMagic]; omega)) ?_
  refine safe_check_bind fun magic => .value (number_slice (by omega)) ?_
  refine .value (checksumValid_slice (by omega) short) ?_
  refine safe_check_bind fun ⟨version, checksum⟩ => .value (number_slice (by omega)) ?_
  refine safe_check_bind fun ⟨countLower, countUpper⟩ => ?_
  refine .bind (safe_directoryInode ready _ (known (by decide)) _ _) fun _ root => ?_
  refine .bind (safe_fileInode ready _ (known (by decide)) _ _) fun _ ⟨readmeIs, readme⟩ => ?_
  refine .bind (safe_directoryInode ready _ (known (by decide)) _ _) fun _ appDir => ?_
  refine .bind (safe_fileInode ready _ (known (by decide)) _ _) fun _ ⟨appAIs, appA⟩ => ?_
  refine .value (sub_ok countLower) ?_
  refine .bind (.mapM fun dynamicIndex inside => safe_dynamicInode ready _ ?_)
    fun _ ⟨made, dynamic⟩ => .pure ⟨⟨magic, version, checksum, countLower, countUpper, root,
      readme, appDir, appA, ?_⟩, ?_⟩
  · rw [List.mem_range] at inside
    omega
  · exact fun dynamicIndex inside => dynamic dynamicIndex (List.mem_range.mpr inside)
  · subst readmeIs appAIs made
    rfl

theorem present_parsedInodes (table : layout.InodeTableOk image.bytes) :
    present layout (layout.parsedInodes image.bytes).dynamic =
      .ok (layout.parsedInodes image.bytes).dynamic := by
  have inArray : (List.range layout.dynamicFileCapacity).forM (index maxVertexFsFiles) =
      (.ok () : Parse Unit) := by
    have passes : ∀ list : List Nat, (∀ position ∈ list, position < maxVertexFsFiles) →
        list.forM (index maxVertexFsFiles) = (.ok () : Parse Unit) := by
      intro list inside
      induction list with
      | nil => rfl
      | cons first rest ih =>
        change (index maxVertexFsFiles first >>= fun _ => rest.forM (index maxVertexFsFiles)) = _
        rw [index_ok (inside first (by simp))]
        exact ih fun position member => inside position (by simp [member])
    refine passes _ fun position member => ?_
    have capacity := ready.capacity
    rw [List.mem_range] at member
    omega
  have fits : (layout.parsedInodes image.bytes).dynamic.length ≤ layout.dynamicFileCapacity := by
    have upper := table.countUpper
    simp only [parsedInodes, List.length_map, List.length_range]
    omega
  unfold present
  rw [inArray, List.take_of_length_le fits]
  rfl

theorem safe_dynamicEntry (table : layout.InodeTableOk image.bytes) {entry : VertexFsInode × Nat}
    (member : entry ∈ (layout.parsedInodes image.bytes).dynamic.zipIdx) :
    Safe (fun _ => layout.dynamicDirectoryEntryOk image.bytes entry.2 entry.1 = true)
      (do
        let name ← inodeName (layout.inodeTable.slice image.bytes)
          (← add vertexFsBaseInodeCount entry.2)
        let position ← add vertexFsBaseDirectoryCount entry.2
        check "dynamic directory entry mismatch"
          (← directoryEntryEq (layout.directory.slice image.bytes) position vertexFsInodeAppDir
            entry.1.id vertexFsKindFile name)) := by
  have inside : entry.2 < layout.dynamicFileCapacity := by
    have upper := table.countUpper
    have below := (List.mem_zipIdx' member).1
    simp only [parsedInodes, List.length_map, List.length_range] at below
    omega
  have named := ready.placed.dynamicNamed
  have capacity := ready.capacity
  simp only [maxVertexFsFiles] at capacity
  refine .value (add_ok (by simp only [Fits, wordLimit, vertexFsBaseInodeCount]; omega)) ?_
  refine .bind (safe_inodeName ready _ (by omega)) fun name text => ?_
  refine .value (add_ok (by
    simp only [Fits, wordLimit, vertexFsBaseDirectoryCount]; omega)) ?_
  refine .bind (safe_directoryEntryEq ready _ (by omega) _) fun _ same => safe_check fun ok => ?_
  unfold dynamicDirectoryEntryOk
  rw [text]
  exact same ok

theorem safe_validateDirectory (table : layout.InodeTableOk image.bytes) :
    Safe (fun _ => layout.DirectoryOk image.bytes (layout.parsedInodes image.bytes).dynamic)
      (validateDirectory layout image (layout.parsedInodes image.bytes).dynamic) := by
  obtain ⟨-, short, -, long⟩ := ready.small
  have known {position : Nat} (base : position < vertexFsBaseDirectoryCount) :
      position < vertexFsBaseDirectoryCount + layout.directoryDynamicFileCapacity := by omega
  refine .bind (safe_vertexfsSection image layout.directory) fun sector same => ?_
  subst same
  refine .value (magicMatches_slice (by rw [ready.placed.directoryMagic]; omega)) ?_
  refine safe_check_bind fun magic => .value (number_slice (by omega)) ?_
  refine .value (checksumValid_slice (by omega) short) ?_
  refine safe_check_bind fun ⟨version, checksum⟩ => .value (number_slice (by omega)) ?_
  refine safe_check_bind fun ⟨countLower, countUpper⟩ => ?_
  refine .value (present_parsedInodes ready image table) ?_
  refine safe_check_bind fun count => ?_
  refine .bind (safe_directoryEntryEq ready _ (known (by decide)) _) fun _ readme => ?_
  refine .bind (safe_directoryEntryEq ready _ (known (by decide)) _) fun _ appDir => ?_
  refine .bind (safe_directoryEntryEq ready _ (known (by decide)) _) fun _ appA => ?_
  refine safe_check_bind fun ⟨readmeOk, appDirOk, appAOk⟩ => ?_
  refine .bind (safe_vertexfsSection image layout.inodeTable) fun inodeSector same => ?_
  subst same
  refine .imp (.forM fun entry member => safe_dynamicEntry ready image table member)
    fun _ dynamic => ?_
  exact ⟨magic, version, checksum, count, by omega, readme readmeOk, appDir appDirOk, appA appAOk,
    dynamic⟩

theorem safe_fileExtentPayload (format : vertexFsLayoutFromSuperblock image.bytes = .ok layout)
    (narrow : inode.sectorCount < 2 ^ 32) :
    Safe (fun read => inode.ExtentOk layout ∧ read.1.toBytes = inode.stored image.bytes ∧
        read.1.length < 2 ^ 32 ∧ read.2 = (inode.firstSector, inode.endSector))
      (fileExtentPayload image inode) := by
  refine safe_check_bind fun nonempty => safe_check_bind fun bounded => ?_
  refine .bind (safe_layoutForImage image) fun again decoded => ?_
  rw [format] at decoded
  cases decoded
  have dataEnd := ready.placed.dataEnd
  refine .value (add_ok (by rw [dataEnd]; decide)) ?_
  refine safe_check_bind ?_
  rintro ⟨lower, upper⟩
  refine .value (mul_ok (by simp only [Fits, wordLimit, vertexFsSectorSize]; omega)) ?_
  refine safe_check_bind ?_
  rintro ⟨sizeFits, sizeUpper⟩
  refine safe_check_bind fun _ => safe_check_bind fun _ => ?_
  split
  · next data found =>
      have whole := (get_eq_some found).2
      rw [Nat.add_sub_cancel_left] at whole
      subst whole
      refine .pure ⟨⟨nonempty, lower, upper, bounded, sizeFits, sizeUpper⟩, ?_, ?_, rfl⟩
      · simp only [Slice.toBytes, VertexFsInode.stored, readBytes_shift, Nat.add_zero]
      · simp only [maxVertexFsFileBytes] at sizeUpper
        exact lt_of_le_of_lt sizeUpper (by decide)
  · exact safe_reject _

theorem safe_filePayload (format : vertexFsLayoutFromSuperblock image.bytes = .ok layout)
    (narrow : inode.sectorCount < 2 ^ 32) :
    Safe (fun read => inode.ExtentOk layout ∧ inode.ChecksumOk image.bytes ∧
        read = (inode.stored image.bytes, inode.firstSector, inode.endSector))
      (filePayload image inode) := by
  refine .bind (safe_fileExtentPayload ready image format narrow) ?_
  rintro ⟨data, firstSector, endSector⟩ ⟨extent, stored, short, ends⟩
  refine .value (checksum32_ok short) (safe_check_bind fun checksum => ?_)
  dsimp only at stored ends
  rw [stored] at checksum
  exact .pure ⟨extent, checksum, by rw [stored, ends]⟩

theorem safe_recoverableFilePayload (format : vertexFsLayoutFromSuperblock image.bytes = .ok layout)
    (narrow : inode.sectorCount < 2 ^ 32) (journal : Option VertexFsJournalRecord) :
    Safe (fun read => inode.recoverablePayload layout image.bytes journal = .ok read.1 ∧
        read.2 = (inode.firstSector, inode.endSector))
      (recoverableFilePayload image inode journal) := by
  refine .bind (safe_fileExtentPayload ready image format narrow) ?_
  rintro ⟨data, firstSector, endSector⟩ ⟨extent, stored, short, ends⟩
  dsimp only at stored ends
  refine .value (checksum32_ok short) ?_
  rw [stored]
  have checked : inode.checkExtent layout = .ok () := VertexFsInode.checkExtent_ok.mpr extent
  unfold VertexFsInode.recoverablePayload
  rw [checked]
  dsimp only [bind, Except.bind]
  split_ifs with valid
  · exact .pure ⟨rfl, ends⟩
  · cases journal with
    | none => exact safe_reject _
    | some record =>
      dsimp only
      refine .ite (fun ⟨target, starts⟩ => ?_) fun _ => safe_reject _
      rw [if_pos ⟨target, extentStartsWith_true image starts⟩]
      exact .pure ⟨rfl, ends⟩

theorem Ready.journal_size : layout.journal.byteCount = 512 := by
  rw [byteCount, ready.placed.journalCount]
  rfl

theorem safe_parseJournalRecord :
    Safe (fun journal => vertexFsMagicMatches image.bytes layout.journal layout.journalMagic →
        readLe 2 image.bytes (layout.journal.address 16) = layout.version →
        vertexFsChecksumValid image.bytes layout.journal →
        readLe 2 image.bytes (layout.journal.address 18) = vertexFsJournalStatePending →
        layout.parseJournal image.bytes = .ok journal)
      (parseJournalRecord layout (layout.journal.slice image.bytes)) := by
  have size := ready.journal_size
  refine .value (number_slice (by omega)) (.value (number_slice (by omega)) ?_)
  refine .value (number_slice (by omega)) (.value (number_slice (by omega)) ?_)
  refine .value (number_slice (by omega)) (.value (number_slice (by omega)) ?_)
  refine .value (number_slice (by omega)) (safe_check_bind fun replay => ?_)
  refine safe_check_bind fun _ => ?_
  split
  · next payload found =>
      obtain ⟨inside, whole⟩ := get_eq_some found
      rw [Nat.add_sub_cancel_left] at whole
      have stored : payload.toBytes = readBytes image.bytes
          (layout.journal.address vertexFsJournalPayloadOffset)
          (readLe 4 image.bytes (layout.journal.address 28)) := by
        rw [whole]
        simp only [Slice.toBytes, readBytes_shift, Nat.add_zero, readBytes_slice]
      have short : payload.length < 2 ^ 32 := by
        have small := readLe_lt 4 image.bytes (layout.journal.address 28)
        rw [whole]
        exact small
      refine .value (checksum32_ok short) (safe_check_bind fun checksum => ?_)
      refine .pure fun magic version valid pending => ?_
      have notClean : ¬vertexFsJournalStatePending = vertexFsJournalStateClean := by decide
      rw [stored] at checksum ⊢
      unfold VertexFsLayout.parseJournal
      simp only [outcome_bind_ok, vertexFsCheck_ok, exists_const, pending, if_neg notClean]
      exact ⟨magic, ⟨version, valid⟩, trivial, replay, inside.trans size.le, checksum, rfl⟩
  · exact safe_reject _

theorem safe_parseJournal :
    Safe (fun journal => layout.parseJournal image.bytes = .ok journal)
      (parseJournal layout image) := by
  have size := ready.journal_size
  refine .bind (safe_vertexfsSector image layout.journal ready.placed.journalCount) fun _ same => ?_
  subst same
  refine .value (magicMatches_slice (by rw [ready.placed.journalMagic]; omega)) ?_
  refine safe_check_bind fun magic => .value (number_slice (by omega)) ?_
  refine .value (checksumValid_slice (by omega) (by omega)) ?_
  refine safe_check_bind fun ⟨version, valid⟩ => .value (number_slice (by omega)) ?_
  refine .ite (fun clean => .pure ?_) fun _ => .ite (fun pending => ?_) fun _ => safe_reject _
  · unfold VertexFsLayout.parseJournal
    simp only [outcome_bind_ok, vertexFsCheck_ok, exists_const, clean, if_true]
    exact ⟨magic, ⟨version, valid⟩, rfl⟩
  · exact .imp (safe_parseJournalRecord ready image) fun _ record =>
      record magic version valid pending

def extentOf (inode : VertexFsInode) : Nat × Nat := (inode.firstSector, inode.endSector)

theorem safe_checkDynamicFiles (format : vertexFsLayoutFromSuperblock image.bytes = .ok layout)
    {readme appA : VertexFsInode} {earlier dynamic : List VertexFsInode}
    (room : earlier.length + dynamic.length ≤ maxVertexFsFiles)
    (narrow : ∀ inode ∈ dynamic, inode.sectorCount < 2 ^ 32) :
    Safe (fun _ => DynamicFilesOk layout image.bytes (readme :: appA :: earlier) dynamic)
      (checkDynamicFiles image (extentOf readme) (extentOf appA) (earlier.map extentOf)
        dynamic) := by
  induction dynamic generalizing earlier with
  | nil => exact .pure (checkDynamicFiles_ok.mp rfl)
  | cons inode rest ih =>
    refine .bind (safe_filePayload ready image format (narrow inode (by simp))) ?_
    rintro _ ⟨extent, checksum, rfl⟩
    refine safe_check_bind fun apartBase => safe_check_bind fun apartEarlier => ?_
    rw [List.length_cons] at room
    refine .value (index_ok (by rw [List.length_map]; omega)) ?_
    have next := @ih (earlier ++ [inode]) (by simp; omega)
      fun other member => narrow other (by simp [member])
    rw [List.map_append] at next
    refine .imp next fun _ others => checkDynamicFiles_ok.mp (show
      VertexOS.checkDynamicFiles layout image.bytes (readme :: appA :: earlier)
        (inode :: rest) = .ok () from ?_)
    simp only [VertexOS.checkDynamicFiles, outcome_bind_ok, vertexFsCheck_ok, exists_const]
    refine ⟨_, VertexFsInode.payload_ok.mpr ⟨extent, checksum, rfl⟩, ?_,
      checkDynamicFiles_ok.mpr others⟩
    simp only [List.mem_cons, forall_eq_or_imp]
    refine ⟨fun overlaps => apartBase (.inl overlaps), fun overlaps => apartBase (.inr overlaps),
      fun other member => apartEarlier _ (List.mem_map_of_mem member)⟩

omit ready in
theorem coversSector_iff : coversSector inode sector = true ↔ inode.Covers sector :=
  decide_eq_true_iff

omit ready in
theorem sectorInSection_iff {part : VertexFsSection}
    (small : part.firstSector + part.sectorCount ≤ vertexFsSectors) :
    sectorInSection sector part = true ↔ part.Has sector := by
  have fits : Fits (part.firstSector + part.sectorCount) := by
    simp only [Fits, wordLimit, vertexFsSectors] at *
    omega
  exact decide_eq_true_iff.trans (and_iff_right fits)

theorem allocated_iff {inodes : VertexFsParsedInodes} :
    (sector = 0 ∨ sectorInSection sector layout.inodeTable ∨
        sectorInSection sector layout.directory ∨ sector = layout.freeMap.firstSector ∨
        sector = layout.journal.firstSector ∨ coversSector inodes.readme sector ∨
        coversSector inodes.appA sector ∨ inodes.dynamic.any (coversSector · sector)) ↔
      layout.Allocated inodes sector := by
  have placed := ready.placed
  have row := placed.row
  have single {part : VertexFsSection} (one : part.sectorCount = 1) :
      part.Has sector ↔ sector = part.firstSector := by
    unfold Has
    omega
  rw [sectorInSection_iff (by omega), sectorInSection_iff (by omega),
    ← single placed.freeMapCount, ← single placed.journalCount]
  simp only [coversSector_iff, List.any_eq_true]
  rfl

theorem safe_validateFreeMap (table : layout.InodeTableOk image.bytes) :
    Safe (fun _ => layout.FreeMapOk image.bytes (layout.parsedInodes image.bytes))
      (validateFreeMap layout image (layout.parsedInodes image.bytes)) := by
  have size : layout.freeMap.byteCount = 512 := by
    rw [byteCount, ready.placed.freeMapCount]
    rfl
  refine .bind (safe_vertexfsSector image layout.freeMap ready.placed.freeMapCount) fun _ same => ?_
  subst same
  refine .value (magicMatches_slice (by rw [ready.placed.freeMapMagic]; omega)) ?_
  refine safe_check_bind fun magic => .value (number_slice (by omega)) ?_
  refine .value (checksumValid_slice (by omega) (by omega)) ?_
  refine safe_check_bind ?_
  rintro ⟨version, valid⟩
  refine .value (number_slice (by omega)) ?_
  refine safe_check_bind fun count => ?_
  have each (sector : Nat) (inside : sector ∈ List.range vertexFsSectors) :
      vertexFsFreeMapOffset + sector < (layout.freeMap.slice image.bytes).length := by
    rw [List.mem_range] at inside
    simp only [vertexFsSectors, vertexFsFreeMapOffset] at *
    exact lt_of_lt_of_le (by omega) size.ge
  refine .imp (.forM fun sector inside => .value (byte_ok (each sector inside))
    (safe_check_bind fun byteOk => .value (present_parsedInodes ready image table)
      (safe_check fun allocated => And.intro byteOk
        (allocated.trans (allocated_iff ready))))) fun _ map => ?_
  exact ⟨magic, version, valid, count, fun sector inside =>
      (map sector (List.mem_range.mpr inside)).1,
    fun sector inside => (map sector (List.mem_range.mpr inside)).2⟩

omit ready in
theorem safe_replayJournal {appA : VertexFsInode} (narrow : appA.sectorCount < 2 ^ 32)
    (base : Bytes) (journal : Option VertexFsJournalRecord) :
    Safe (fun result => vertexFsReplayJournal appA base journal = .ok result)
      (replayJournal appA base journal) := by
  cases journal with
  | none => exact .pure rfl
  | some record =>
    refine safe_check_bind fun target => safe_check_bind fun small => ?_
    refine .value (mul_ok (by simp only [Fits, wordLimit, vertexFsSectorSize]; omega)) ?_
    refine safe_check_bind fun fits => .pure ?_
    simp only [vertexFsReplayJournal, outcome_bind_ok, vertexFsCheck_ok, exists_const]
    exact ⟨target, small, fits, rfl⟩

theorem safe_checkSuperblock :
    Safe (fun generation => VertexOS.checkSuperblock layout image.bytes = .ok generation)
      (checkSuperblock layout (vertexFsSuperblock.slice image.bytes)) := by
  have size : vertexFsSuperblock.byteCount = 512 := by decide
  have volume : Safe (fun _ => layout.format = .v2 →
      (vertexFsFixedString (readBytes image.bytes 32 64)).isOk)
      (checkVolume layout (vertexFsSuperblock.slice image.bytes)) := by
    refine .ite (fun _ => .bind (safe_fixedString _ _ _) fun name read => .pure ?_)
      fun other => .pure fun second => absurd second other
    rw [readBytes_slice, superblock_address] at read
    exact fun _ => by rw [read]; rfl
  refine .bind volume fun _ volume => ?_
  refine .value (magicMatches_slice (by rw [ready.placed.superblockMagic]; omega)) ?_
  refine safe_check_bind fun _ => .value (number_slice (by omega)) ?_
  refine safe_check_bind fun version => .value (number_slice (by omega)) ?_
  refine safe_check_bind fun sectorSize => ?_
  refine .value (checksumValid_slice (by omega) (by omega)) ?_
  refine safe_check_bind fun checksum => .value (number_slice (by omega)) ?_
  refine safe_check_bind fun sectors => .value (number_slice (by omega)) ?_
  refine safe_check_bind fun flags => ?_
  refine .value (sectionMatches_slice ready _ (by decide) _) ?_
  refine .value (sectionMatches_slice ready _ (by decide) _) ?_
  refine .value (sectionMatches_slice ready _ (by decide) _) ?_
  refine .value (sectionMatches_slice ready _ (by decide) _) ?_
  refine .value (sectionMatches_slice ready _ (by decide) _) ?_
  refine safe_check_bind fun ⟨inodeTable, directory, freeMap, journal, data⟩ => ?_
  refine .imp (safe_fixedString _ _ _) fun generation read => checkSuperblock_of_ok ?_
  rw [readBytes_slice] at read
  simp only [superblock_address] at version sectorSize sectors flags read
  exact ⟨volume, version, sectorSize, checksum, sectors, flags, inodeTable, directory, freeMap,
    journal, data, read⟩

end Tables

theorem sectorCount_readInode_lt (layout : VertexFsLayout) (image : Image) (position : Nat) :
    (layout.readInode image position).sectorCount < 2 ^ 32 :=
  readLe_lt 4 image _

/-- The parser is never stopped, and it accepts only what the conditions on images accept. -/
theorem safe_parseVertexFsImageSlice (image : Slice) :
    Safe (fun boot => parseVertexFsImage image.bytes = .ok boot)
      (parseVertexFsImageSlice image) := by
  refine .bind (safe_vertexfsSector image vertexFsSuperblock rfl) fun _ same => ?_
  subst same
  refine .bind (safe_layoutFromSuperblock image.bytes) fun layout format => ?_
  have ready := ready_of_layoutFromSuperblock format
  refine .bind (safe_checkSuperblock ready image) fun generation superblock => ?_
  refine .bind (safe_parseJournal ready image) fun journal journalOk => ?_
  refine .bind (safe_parseInodeTable ready image) fun inodes parsed => ?_
  obtain ⟨table, rfl⟩ := parsed
  have narrow := sectorCount_readInode_lt layout image.bytes
  refine .bind (safe_validateDirectory ready image table) fun _ directory => ?_
  refine .bind (safe_filePayload ready image format (narrow 1)) ?_
  rintro _ ⟨readmeExtent, readmeChecksum, rfl⟩
  refine .bind (safe_recoverableFilePayload ready image format (narrow 3) journal) ?_
  rintro ⟨base, _⟩ ⟨appAOk, rfl⟩
  refine safe_check_bind fun apart => ?_
  refine .value (present_parsedInodes ready image table) ?_
  have room : (layout.parsedInodes image.bytes).dynamic.length ≤ maxVertexFsFiles := by
    have upper := table.countUpper
    have capacity := ready.capacity
    simp only [parsedInodes, List.length_map, List.length_range]
    omega
  refine .bind (@safe_checkDynamicFiles layout ready image format
    (layout.parsedInodes image.bytes).readme (layout.parsedInodes image.bytes).appA []
    (layout.parsedInodes image.bytes).dynamic (by simpa using room) ?_) fun _ dynamic => ?_
  · intro inode member
    obtain ⟨position, -, rfl⟩ := List.mem_map.mp member
    exact narrow _
  refine .bind (safe_validateFreeMap ready image table) fun _ freeMap => ?_
  refine .bind (safe_replayJournal (narrow 3) base journal) ?_
  rintro ⟨appA, replayed⟩ replay
  have appAExtent : (layout.parsedInodes image.bytes).appA.ExtentOk layout := by
    cases journal with
    | none => exact (VertexFsInode.recoverablePayload_clean.mp appAOk).1
    | some record => exact (VertexFsInode.recoverablePayload_pending.mp ⟨_, appAOk⟩).1
  exact .pure (parseVertexFsImage_ok.mpr ⟨layout, generation, journal, base, appA, replayed,
    ⟨format, superblock, table, directory, readmeExtent, readmeChecksum, appAExtent, apart, dynamic,
      freeMap⟩, journalOk, appAOk, replay, rfl⟩)

def files (inodes : VertexFsParsedInodes) : List VertexFsInode :=
  inodes.readme :: inodes.appA :: inodes.dynamic

def InExtent (inode : VertexFsInode) (sector : Nat) : Prop :=
  inode.firstSector ≤ sector ∧ sector < inode.endSector

def MetadataSector (layout : VertexFsLayout) (sector : Nat) : Prop :=
  vertexFsSuperblock.Has sector ∨ layout.inodeTable.Has sector ∨ layout.directory.Has sector ∨
    layout.freeMap.Has sector ∨ layout.journal.Has sector

def DescribesInode (layout : VertexFsLayout) (image : Image) (entry position : Nat) : Prop :=
  let inode := layout.readInode image position
  ∃ name, layout.inodeNameEq image position name ∧
    layout.directoryEntryEq image entry inode.parent inode.id inode.kind name

structure WellFormed (layout : VertexFsLayout) (image : Image) (boot : VertexFsBootFiles) :
    Prop where
  readme : boot.readme = ⟨(layout.parsedInodes image).readme,
    (layout.parsedInodes image).readme.stored image⟩
  appA : boot.appA.inode = (layout.parsedInodes image).appA
  extents : ∀ inode ∈ files (layout.parsedInodes image), inode.sectorCount ≠ 0 ∧
    layout.data.firstSector ≤ inode.firstSector ∧
    inode.endSector ≤ layout.data.firstSector + layout.data.sectorCount
  apart : (files (layout.parsedInodes image)).Pairwise fun one other =>
    ∀ sector, ¬(InExtent one sector ∧ InExtent other sector)
  freeMap : ∀ sector < vertexFsSectors,
    (layout.freeMapByte image sector = 0 ∨ layout.freeMapByte image sector = 1) ∧
    (layout.freeMapByte image sector = 1 ↔ MetadataSector layout sector ∨
      ∃ inode ∈ files (layout.parsedInodes image), InExtent inode sector)
  ids : ∀ position < layout.inodeTableCount image,
    (layout.readInode image position).id = position + 1
  entries : layout.directoryCount image + 1 = layout.inodeTableCount image ∧
    ∀ entry < layout.directoryCount image, DescribesInode layout image entry (entry + 1)
  checksums : ∀ inode ∈ files (layout.parsedInodes image),
    inode = boot.appA.inode ∧ boot.journalReplayed = true ∨ inode.ChecksumOk image
  content : boot.journalReplayed = false →
    boot.appA.payload = (layout.parsedInodes image).appA.stored image

section

variable {layout : VertexFsLayout} {image : Image} {generation : Bytes}

theorem apart_of_not_overlaps {one other : VertexFsInode} (clear : ¬one.Overlaps other)
    (sector : Nat) : ¬(InExtent one sector ∧ InExtent other sector) := by
  rintro ⟨⟨lower, upper⟩, lower', upper'⟩
  exact clear ⟨by omega, by omega⟩

theorem fixedStringEq_of_fixedString {field text : Bytes}
    (read : vertexFsFixedString field = .ok text) : vertexFsFixedStringEq field text = true := by
  unfold vertexFsFixedString at read
  dsimp only at read
  split_ifs at read with printable empty padded
  all_goals first | exact absurd read rejectVertexFsImage_ne_ok | skip
  cases read
  have front : field.takeWhile (· ≠ 0) <+: field := List.takeWhile_prefix _
  rw [List.all_eq_true] at padded
  generalize field.takeWhile (· ≠ 0) = text at *
  have zeros : field.drop text.length = List.replicate (field.length - text.length) 0 := by
    rw [List.eq_replicate_iff]
    exact ⟨List.length_drop, fun byte member => by simpa using padded byte member⟩
  simp only [vertexFsFixedStringEq, decide_eq_true_eq]
  refine ⟨empty, front.length_le, ?_⟩
  rw [← zeros]
  exact (List.prefix_iff_eq_append.mp front).symm

theorem dynamicInode_fields {index : Nat} (ok : layout.dynamicInodeOk image index = true) :
    (layout.readInode image (vertexFsBaseInodeCount + index)).id =
        vertexFsDynamicInodeFirst + index ∧
      (layout.readInode image (vertexFsBaseInodeCount + index)).kind = vertexFsKindFile ∧
      (layout.readInode image (vertexFsBaseInodeCount + index)).parent = vertexFsInodeAppDir := by
  simp only [dynamicInodeOk, decide_eq_true_eq] at ok
  exact ⟨ok.1, ok.2.1, ok.2.2.1⟩

variable (body : layout.BodyOk image generation)
include body

theorem extentOk_of_body : ∀ inode ∈ files (layout.parsedInodes image), inode.ExtentOk layout := by
  simp only [files, List.mem_cons, forall_eq_or_imp]
  exact ⟨body.readmeExtent, body.appAExtent, body.dynamic.extent⟩

theorem files_apart :
    (files (layout.parsedInodes image)).Pairwise fun one other =>
      ∀ sector, ¬(InExtent one sector ∧ InExtent other sector) := by
  have prior := body.dynamic.apartPrior
  simp only [List.mem_cons, List.not_mem_nil, or_false, forall_eq_or_imp, forall_eq] at prior
  refine List.pairwise_cons.mpr ⟨?_, List.pairwise_cons.mpr ⟨fun other member sector both => ?_, ?_⟩⟩
  · rintro other (_ | ⟨_, member⟩) sector both
    · exact apart_of_not_overlaps body.apart sector both
    · exact apart_of_not_overlaps (prior other member).1 sector both.symm
  · exact apart_of_not_overlaps (prior other member).2 sector both.symm
  · exact body.dynamic.apart.imp fun clear sector both =>
      apart_of_not_overlaps clear sector both.symm

theorem allocated_iff_files {sector : Nat} :
    layout.Allocated (layout.parsedInodes image) sector ↔ MetadataSector layout sector ∨
      ∃ inode ∈ files (layout.parsedInodes image), InExtent inode sector := by
  have covers {inode : VertexFsInode} (extent : inode.ExtentOk layout) :
      inode.Covers sector ↔ InExtent inode sector := and_iff_right extent.bounded
  have first : vertexFsSuperblock.Has sector ↔ sector = 0 := by
    simp only [Has, vertexFsSuperblock]
    omega
  have dynamic : (∃ inode ∈ (layout.parsedInodes image).dynamic, inode.Covers sector) ↔
      ∃ inode ∈ (layout.parsedInodes image).dynamic, InExtent inode sector :=
    exists_congr fun inode => and_congr_right fun member => covers (body.dynamic.extent inode member)
  simp only [VertexFsLayout.Allocated, MetadataSector, files, List.mem_cons,
    exists_eq_or_imp, covers body.readmeExtent, covers body.appAExtent, dynamic, first, or_assoc]

theorem directoryCount_of_body :
    layout.directoryCount image + 1 = layout.inodeTableCount image := by
  have count := body.directory.count
  have lower := body.table.countLower
  simp only [parsedInodes, List.length_map, List.length_range,
    vertexFsBaseDirectoryCount, vertexFsBaseInodeCount] at count lower
  omega

theorem describesInode_of_body {entry : Nat} (inside : entry < layout.directoryCount image) :
    DescribesInode layout image entry (entry + 1) := by
  have readme := body.table.readme
  have appDir := body.table.appDir
  have appA := body.table.appA
  simp only [directoryInodeOk, fileInodeOk, decide_eq_true_eq] at readme appDir appA
  rcases entry with _ | _ | _ | index
  · refine ⟨utf8 "readme", readme.2.2.2.2, ?_⟩
    rw [readme.1, readme.2.1, readme.2.2.1]
    exact body.directory.readme
  · refine ⟨utf8 "app", appDir.2.2, ?_⟩
    rw [appDir.1]
    exact body.directory.appDir
  · refine ⟨utf8 "a", appA.2.2.2.2, ?_⟩
    rw [appA.1, appA.2.1, appA.2.2.1]
    exact body.directory.appA
  · have total := directoryCount_of_body body
    have below : index < layout.inodeTableCount image - vertexFsBaseInodeCount := by
      simp only [vertexFsBaseInodeCount]
      omega
    have place : index + 3 + 1 = vertexFsBaseInodeCount + index := by
      simp only [vertexFsBaseInodeCount]
      omega
    obtain ⟨_, kind, parent⟩ := dynamicInode_fields (body.table.dynamic index below)
    have listed := body.directory.dynamic
      (layout.readInode image (vertexFsBaseInodeCount + index), index) (by
        rw [List.mk_mem_zipIdx_iff_getElem?]
        simp [parsedInodes, below])
    unfold dynamicDirectoryEntryOk at listed
    split at listed
    · next name text =>
        refine ⟨name, ?_, ?_⟩
        · rw [place]
          exact fixedStringEq_of_fixedString text
        · rw [place, kind, parent, show index + 3 = vertexFsBaseDirectoryCount + index by
            simp only [vertexFsBaseDirectoryCount]; omega]
          exact listed
    · cases listed

end

theorem wellFormed_of_parse {image : Image} {boot : VertexFsBootFiles}
    (accepted : parseVertexFsImage image = .ok boot) :
    ∃ layout, vertexFsLayoutFromSuperblock image = .ok layout ∧ WellFormed layout image boot := by
  obtain ⟨layout, generation, journal, base, appA, replayed, body, journalOk, appAOk, replay, rfl⟩ :=
    parseVertexFsImage_ok.mp accepted
  have recovered : replayed = true ∨ (layout.parsedInodes image).appA.ChecksumOk image ∧
        appA = (layout.parsedInodes image).appA.stored image := by
    cases journal with
    | none =>
      cases replay
      exact .inr (VertexFsInode.recoverablePayload_clean.mp appAOk).2
    | some record =>
      simp only [vertexFsReplayJournal, outcome_bind_ok] at replay
      obtain ⟨_, _, _, _, _, _, done⟩ := replay
      cases done
      exact .inl rfl
  refine ⟨layout, body.format, rfl, rfl, ?_, files_apart body, ?_, fun _ => body.table.id_eq,
    ⟨directoryCount_of_body body, fun _ => describesInode_of_body body⟩, ?_, ?_⟩
  · intro inode member
    have extent := extentOk_of_body body inode member
    exact ⟨extent.nonempty, extent.lower, extent.upper⟩
  · intro sector inside
    exact ⟨body.freeMap.bytes sector inside,
      (body.freeMap.allocated sector inside).trans (allocated_iff_files body)⟩
  · simp only [files, List.mem_cons, forall_eq_or_imp]
    refine ⟨.inr body.readmeChecksum, ?_, fun inode member =>
        .inr (body.dynamic.checksum inode member)⟩
    exact recovered.imp (fun done => ⟨rfl, done⟩) fun ok => ok.1
  · intro clean
    rcases recovered with done | ok
    · exact absurd (clean.symm.trans done) Bool.false_ne_true
    · exact ok.2

theorem parseVertexFsImageSlice_sound (image : Slice) :
    (∃ rejection, parseVertexFsImageSlice image = .error (.error rejection)) ∨
      ∃ layout boot, parseVertexFsImageSlice image = .ok boot ∧
        vertexFsLayoutFromSuperblock image.bytes = .ok layout ∧
        WellFormed layout image.bytes boot := by
  have safe := safe_parseVertexFsImageSlice image
  rcases outcome : parseVertexFsImageSlice image with (rejection | _ | _) | boot
  · exact .inl ⟨rejection, rfl⟩
  · rw [outcome] at safe
    exact safe.elim
  · rw [outcome] at safe
    exact safe.elim
  · rw [outcome] at safe
    obtain ⟨layout, format, wellFormed⟩ := wellFormed_of_parse safe
    exact .inr ⟨layout, boot, rfl, format, wellFormed⟩

end VertexFsSlices

end VertexOS
