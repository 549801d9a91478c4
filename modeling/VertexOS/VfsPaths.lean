import Mathlib.Data.PNat.Basic
import VertexOS.ByteStrings

/-! # Paths and names of the virtual file system -/

namespace VertexOS

open ByteStrings

inductive InitError where
  | objectTableFull
  | processTableFull
  | capabilityTableFull
  | invalidBootManifest
deriving DecidableEq, Repr

inductive IpcError where
  | badCapability
  | invalidUserBuffer
  | messageTooLarge
  | empty
  | vfsPermission
  | vfsBadPath
  | vfsNotFound
  | vfsNotDirectory
  | vfsNotFile
  | vfsBusy
  | vfsBadHandle
  | vfsUnsupported
  | vfsNoSpace
  | vfsExists
deriving DecidableEq, Repr

def maxVfsPathBytes : Nat := 128

def maxVfsNameBytes : Nat := 64

/-- Nodes are numbered from one, so that no node has the number zero. -/
structure VfsNodeId where
  raw : ℕ+
deriving DecidableEq, Repr

def slash : UInt8 := 47

structure VfsName where
  bytes : Bytes
  length_le : bytes.length ≤ maxVfsNameBytes
deriving DecidableEq

namespace VfsName

def empty : VfsName := ⟨[], Nat.zero_le _⟩

def fromBytes (value : Bytes) : Option VfsName :=
  if fits : value ≠ [] ∧ value.length ≤ maxVfsNameBytes then
    if value = [slash] then some ⟨value, fits.2⟩
    else if slash ∈ value ∨ (0 : UInt8) ∈ value then none
    else some ⟨value, fits.2⟩
  else none

def fromStatic (value : String) : Except InitError VfsName :=
  (fromBytes (utf8 value)).elim (.error .invalidBootManifest) .ok

def fromUserComponent (value : Bytes) : Except IpcError VfsName :=
  if value = utf8 "." ∨ value = utf8 ".." then .error .vfsBadPath
  else (fromBytes value).elim (.error .badCapability) .ok

end VfsName

def validPathComponent (component : Bytes) : Bool :=
  component ≠ [] ∧ component.length ≤ maxVfsNameBytes ∧ component ≠ utf8 "." ∧
    component ≠ utf8 ".." ∧ (0 : UInt8) ∉ component

def validVfsRootPath (path : Bytes) : Bool :=
  if path.head? ≠ some slash ∨ (1 < path.length ∧ path.getLast? = some slash) then false
  else if path = [slash] then true
  else ((path.drop 1).splitOn slash).all validPathComponent

structure VfsPath where
  bytes : Bytes
  length_le : bytes.length ≤ maxVfsPathBytes
deriving DecidableEq

theorem rootPath_le : (utf8 "/").length ≤ maxVfsPathBytes := by decide

namespace VfsPath

def empty : VfsPath := ⟨[], by decide⟩

def fromRootPath (path : Bytes) : Except IpcError VfsPath :=
  if fits : path.length ≤ maxVfsPathBytes ∧ validVfsRootPath path then .ok ⟨path, fits.1⟩
  else .error .vfsBadPath

def fromBootRootPath (path : String) : Except InitError VfsPath :=
  if fits : (utf8 path).length ≤ maxVfsPathBytes ∧ validVfsRootPath (utf8 path) then
    .ok ⟨utf8 path, fits.1⟩
  else .error .invalidBootManifest

end VfsPath

/-- Whether authority over the first path reaches the second: the same path, or
one below it at a separator. -/
def vfsAuthorityPathCovers (authority path : Bytes) : Bool :=
  if authority = [slash] then path.head? = some slash
  else authority = path ∨ (authority <+: path ∧ path[authority.length]? = some slash)

theorem vfsAuthorityPathCovers_iff_append {authority path : Bytes} (notRoot : authority ≠ [slash]) :
    vfsAuthorityPathCovers authority path = true ↔
      path = authority ∨ ∃ rest, path = authority ++ slash :: rest := by
  simp only [vfsAuthorityPathCovers, notRoot, if_false, decide_eq_true_eq]
  constructor
  · rintro (same | ⟨⟨rest, joined⟩, separator⟩)
    · exact .inl same.symm
    · subst joined
      cases rest with
      | nil => simp at separator
      | cons byte rest =>
        simp at separator
        exact .inr ⟨rest, by rw [separator]⟩
  · rintro (same | ⟨rest, joined⟩)
    · exact .inl same.symm
    · subst joined
      exact .inr ⟨List.prefix_append _ _, by simp⟩

end VertexOS
