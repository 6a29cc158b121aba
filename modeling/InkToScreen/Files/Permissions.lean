/-! Permission bits of files and folders. Everything in a tree belongs to the user that works on it,
so the bits of the owner decide; a new file or folder gets the usual bits less a mask. -/
namespace InkToScreen

/-- Permission bits of owner, group and others. -/
abbrev Permissions := BitVec 9

namespace Permissions

def mayRead (permissions : Permissions) : Bool :=
  permissions.getLsbD 8

def mayWrite (permissions : Permissions) : Bool :=
  permissions.getLsbD 7

def maySearch (permissions : Permissions) : Bool :=
  permissions.getLsbD 6

def newFile (umask : Permissions) : Permissions :=
  0o666 &&& ~~~umask

def newFolder (umask : Permissions) : Permissions :=
  0o777 &&& ~~~umask

def usualMask : Permissions := 0o022

theorem mayRead_newFile (umask : Permissions) : (newFile umask).mayRead = !umask.mayRead := by
  simp [newFile, mayRead]

theorem mayWrite_newFile (umask : Permissions) : (newFile umask).mayWrite = !umask.mayWrite := by
  simp [newFile, mayWrite]

theorem maySearch_newFolder (umask : Permissions) :
    (newFolder umask).maySearch = !umask.maySearch := by
  simp [newFolder, maySearch]

end Permissions
end InkToScreen
