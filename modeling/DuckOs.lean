import DuckOs.Kernel.ShellCommands
import DuckOs.Kernel.ShellSession
import DuckOs.Lib.FirstMatch
import DuckOs.Lib.LineInput
import DuckOs.Lib.ScreenTail
import DuckOs.Proof.Boot
import DuckOs.Proof.Console
import DuckOs.Proof.ConsoleDisplay
import DuckOs.Proof.Context
import DuckOs.Proof.CursorUnder
import DuckOs.Proof.DesktopApps
import DuckOs.Proof.DesktopModal
import DuckOs.Proof.DesktopRun
import DuckOs.Proof.DrawLine
import DuckOs.Proof.DrawRect
import DuckOs.Proof.FileRun
import DuckOs.Proof.FilesKeys
import DuckOs.Proof.FilesPath
import DuckOs.Proof.FilesRows
import DuckOs.Proof.FramebufferBytes
import DuckOs.Proof.FramebufferMemory
import DuckOs.Proof.Heap
import DuckOs.Proof.HeapContract
import DuckOs.Proof.Initramfs
import DuckOs.Proof.InitramfsBounds
import DuckOs.Proof.InputQueue
import DuckOs.Proof.InputShift
import DuckOs.Proof.Klog
import DuckOs.Proof.LogfsCorruption
import DuckOs.Proof.LogfsCrash
import DuckOs.Proof.LogfsImages
import DuckOs.Proof.MmuTables
import DuckOs.Proof.Pointer
import DuckOs.Proof.Shell
import DuckOs.Proof.ShellCommands
import DuckOs.Proof.ShellEcho
import DuckOs.Proof.ShellList
import DuckOs.Proof.ShellLog
import DuckOs.Proof.Spinlock
import DuckOs.Proof.SyscallOutput
import DuckOs.Proof.TaskCreate
import DuckOs.Proof.TaskPick
import DuckOs.Proof.TerminalScrollback
import DuckOs.Proof.TerminalSession
import DuckOs.Proof.TextEditorEdit
import DuckOs.Proof.TextEditorRows
import DuckOs.Proof.Theme
import DuckOs.Proof.TinyfsImage
import DuckOs.Proof.TinyfsPart
import DuckOs.Proof.UserExit
import DuckOs.Proof.UserImage
import DuckOs.Proof.UserPermissions
import DuckOs.Proof.UserRun
import DuckOs.Proof.VfsBuffer
import DuckOs.Proof.VfsList
import DuckOs.Proof.VirtioBlk
import DuckOs.Proof.VirtioBus
import DuckOs.Proof.VirtioDisk
import DuckOs.Proof.VirtioInput
import DuckOs.Proof.VirtqueueFree
import DuckOs.Proof.WindowDraw
