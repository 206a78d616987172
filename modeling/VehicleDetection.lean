import VehicleDetection.Base.Ieee
import VehicleDetection.Base.Lines
import VehicleDetection.Base.Conveyor
import VehicleDetection.Base.Linked
import VehicleDetection.Base.SortedMap
import VehicleDetection.Base.Machine
import VehicleDetection.Base.Extrema
import VehicleDetection.Base.Fields
import VehicleDetection.Detection.Writer
import VehicleDetection.Detection.Document
import VehicleDetection.Detection.Message
import VehicleDetection.Http.Request
import VehicleDetection.Http.Uri
import VehicleDetection.Detector.Links
import VehicleDetection.Detector.Cloud
import VehicleDetection.Sender.Run
import VehicleDetection.Sender.Worker
import VehicleDetection.Sender.Queue
import VehicleDetection.Sender.Saving
import VehicleDetection.Player.Loader
import VehicleDetection.Player.Playlist
import VehicleDetection.Bridge.Declared
import VehicleDetection.Web.Unedited
import VehicleDetection.Base.Binary
import VehicleDetection.Base.Double
import VehicleDetection.Param.Integers
import VehicleDetection.Param.RoundTrip
import VehicleDetection.Param.Text
import VehicleDetection.Base.Calendar
import VehicleDetection.Base.FixedWidth
import VehicleDetection.Base.Hull
import VehicleDetection.Base.Loop
import VehicleDetection.Base.Steps
import VehicleDetection.Detection.Timestamp
import VehicleDetection.Detector.Clusters
import VehicleDetection.Detector.Extent
import VehicleDetection.Http.Receive
import VehicleDetection.Http.Send
import VehicleDetection.Http.StatusLine
import VehicleDetection.Player.WildcardRun
import VehicleDetection.Sender.Attempts
import VehicleDetection.Sender.Shutdown
import VehicleDetection.Base.TwoPhase
import VehicleDetection.Bridge.Answer
import VehicleDetection.Bridge.Get
import VehicleDetection.Bridge.World
import VehicleDetection.Bridge.Serial
import VehicleDetection.Bridge.Effect
import VehicleDetection.Bridge.Sound
import VehicleDetection.Bridge.ServedBack
import VehicleDetection.Player.Node
import VehicleDetection.Detector.Filters
import VehicleDetection.Detector.Frame
import VehicleDetection.Detector.Frames
import VehicleDetection.Base.Channel
import VehicleDetection.System.Pipeline
import VehicleDetection.Web.Page
import VehicleDetection.Base.Calls
import VehicleDetection.Base.Handles
import VehicleDetection.Http.Calls
import VehicleDetection.Sender.Handles
import VehicleDetection.Sender.Results
import VehicleDetection.System.Files
import VehicleDetection.Base.JsonPrefix
import VehicleDetection.Tools.Receiver
import VehicleDetection.System.Delivery
import VehicleDetection.Web.Written
