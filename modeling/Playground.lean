import Playground.Gate.Capacity
import Playground.Gate.IdleCheck
import Playground.Gate.Recycling
import Playground.Gate.Closing
import Playground.Zone.Database
import Playground.Zone.Decided
import Playground.Zone.Logout
import Playground.Client.Codec
import Playground.Client.Handshake
import Playground.Cluster.Agreement
import Playground.Cluster.Delivery
import Playground.Player.Admission
import Playground.Player.Accumulation
import Playground.Player.ItemEvents
import Playground.Player.TaskVisits
import Playground.Player.Delivery
import Playground.Player.Expiry
import Playground.Player.Saving
import Playground.Datacenter.Results
import Playground.Datacenter.Statements
import Playground.Redis.Cursor
import Playground.Redis.Fetched
import Playground.Resource.Lookup
import Playground.Shm.Layout
import Playground.Shm.Restart
import Playground.Shm.Serves
import Playground.Channel.Attribution
import Playground.Channel.Subscriptions
import Playground.Channel.Bounds
import Playground.Channel.Header
import Playground.App.Console
import Playground.Gate.Forwarding
