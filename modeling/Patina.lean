import Patina.Basic
import Patina.Base.Align
import Patina.Base.Signature
import Patina.DevicePath.Memory
import Patina.DevicePath.Node
import Patina.DevicePath.NodeCount
import Patina.DevicePath.Walker
import Patina.DevicePath.Remaining
import Patina.DevicePath.Concat
import Patina.DevicePath.Malformed
import Patina.DevicePath.Display
import Patina.Component.Storage
import Patina.Component.Param
import Patina.Component.InitState
import Patina.Component.Borrows
import Patina.Component.StructComponent
import Patina.Component.Service
import Patina.Component.Runtime
import Patina.Component.Progress
import Patina.Component.Registration
import Patina.Component.Locking
