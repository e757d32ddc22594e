import DuckOs.Kernel.User

/-!
# Runs of user programs

`user_run_demo`, and sessions: one program after the other, with whatever else happens between two of
them. Of a program that was run only its pages and the page table are kept.
-/

namespace DuckOs

/-- `user_run_demo` up to `arch_enter_user`, with the bytes the linker embeds; `none` is a panic. -/
def userRunDemo (platform : Platform) (blob : List UInt8) (state : UserState) :
    Option UserImage × UserState :=
  let codePage := pmmAllocPage platform state.memory
  let stackPage := pmmAllocPage platform codePage.2
  let state := ({ state with memory := stackPage.2 }).setPage 0 codePage.1
  if codePage.1 = 0 ∨ stackPage.1 = 0 then (none, state)
  else
    let cleared := (state.setBytes codePage.1 (List.replicate pmmPageSize 0)).setBytes stackPage.1
      (List.replicate pmmPageSize 0)
    if pmmPageSize * 1 < blob.length then (none, cleared)
    else
      userRunLoadedPages (cleared.setBytes codePage.1 blob) userCodeVa userCodeVa false 1 stackPage.1
        blob.length

inductive UserCall where
  | demo
  | file (path : List UInt8)

def userCall (platform : Platform) (blob : List UInt8) (vfs : VfsState) (state : UserState) :
    UserCall → Option UserImage × UserState
  | .demo => userRunDemo platform blob state
  | .file path => userRunFile platform vfs state path

/-- A program that has entered EL0, with its arrays of pages and of writable pages. -/
structure UserProgram where
  image : UserImage
  pages : Nat → Nat
  writable : Nat → Bool

/-- What the program itself puts into an entry of the table. -/
def UserProgram.descriptor (program : UserProgram) (slot : Nat) : Option MmuL3Descriptor :=
  let first := program.image.imageBase / pmmPageSize
  if slot = mmuL3Index (userStackTop - pmmPageSize) then some ⟨program.image.stackPage, .data⟩
  else if first ≤ slot ∧ slot < first + program.image.pageCount then
    some ⟨program.pages (slot - first),
      userPageAttributes program.image.usesWritable program.writable (slot - first)⟩
  else none

/-- The programs that have run, the latest first, and the table. Between two calls everything but the
table may change. -/
inductive UserSession (platform : Platform) (blob : List UInt8) :
    List UserProgram → MmuL3Table → Prop where
  | boot : UserSession platform blob [] fun _ => none
  | entered {history : List UserProgram} {state next : UserState} {image : UserImage}
      (hsession : UserSession platform blob history state.userTable) (vfs : VfsState)
      (call : UserCall) (hcall : userCall platform blob vfs state.start call = (some image, next)) :
      UserSession platform blob (⟨image, next.pages, next.writable⟩ :: history) next.userTable
  | failed {history : List UserProgram} {state next : UserState}
      (hsession : UserSession platform blob history state.userTable) (vfs : VfsState)
      (call : UserCall) (hcall : userCall platform blob vfs state.start call = (none, next)) :
      UserSession platform blob history next.userTable

end DuckOs
