import Elfutils.Printf
import Elfutils.Libdw.Unit
import Elfutils.Libdw.FindSplitUnit
import Elfutils.Libdw.Links
import Elfutils.Libdw.Resources
import Elfutils.Libdw.Resolution
import Elfutils.Varlocs.Op
import Elfutils.Varlocs.PrintOp
import Elfutils.Varlocs.PrintExpr
import Elfutils.Varlocs.Depth
import Elfutils.Varlocs.HandleDie
import Elfutils.Varlocs.Functions
import Elfutils.Varlocs.Main
import Elfutils.Varlocs.Stops
import Elfutils.Varlocs.FrameBase
import Elfutils.Varlocs.NoUnit
import Elfutils.Varlocs.Debug
import Elfutils.Varlocs.Visits
import Elfutils.Getmacros.Mac
import Elfutils.Getmacros.Imports
import Elfutils.Getmacros.Level
import Elfutils.Getmacros.Unset
