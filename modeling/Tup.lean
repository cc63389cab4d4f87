import Tup.Db
import Tup.Graph.Model
import Tup.Graph.Invariant
import Tup.Graph.Loop
import Tup.Graph.Build
import Tup.Varshow
import Tup.Main
import Tup.Variant
import Tup.Links
import Tup.Poll
import Tup.Entry
import Tup.Touch
import Tup.Fake
