import ServiceLink.Calls
import ServiceLink.Client.Action
import ServiceLink.Client.Basic
import ServiceLink.Client.Discovery
import ServiceLink.Client.Options
import ServiceLink.Client.Run
import ServiceLink.Dict
import ServiceLink.Endpoint
import ServiceLink.Error
import ServiceLink.Json.Basic
import ServiceLink.Json.Double
import ServiceLink.Json.Numeral
import ServiceLink.Json.Record
import ServiceLink.Json.Token
import ServiceLink.Json.Tree
import ServiceLink.Json.Writer
import ServiceLink.Link.Action
import ServiceLink.Link.Basic
import ServiceLink.Link.Dialing
import ServiceLink.Link.Monitor
import ServiceLink.Link.Session
import ServiceLink.Link.Settings
import ServiceLink.Rpc.ErrorObject
import ServiceLink.Rpc.Message
import ServiceLink.Rpc.Request
import ServiceLink.Service.Descriptor
import ServiceLink.Service.Schema
import ServiceLink.Status
import ServiceLink.Subscription.Feed
import ServiceLink.Subscription.Hub
import ServiceLink.Subscription.Registry
import ServiceLink.Subscription.Stream
import ServiceLink.Subscription.Tap
import ServiceLink.Tasks
import ServiceLink.Timed
import ServiceLink.Text.Bidi
import ServiceLink.Text.Blank
import ServiceLink.Text.CombiningClass
import ServiceLink.Text.Composition
import ServiceLink.Text.Decomposition
import ServiceLink.Text.Hex
import ServiceLink.Text.Integer
import ServiceLink.Text.Joining
import ServiceLink.Text.Mark
import ServiceLink.Text.Pieces
import ServiceLink.Text.Table
import ServiceLink.Url.Address
import ServiceLink.Url.Basic
import ServiceLink.Url.Error
import ServiceLink.Url.Folding
import ServiceLink.Url.Host
import ServiceLink.Url.Label
import ServiceLink.Url.Percent
import ServiceLink.Url.Punycode
import ServiceLink.Url.Reader
import ServiceLink.Word
import ServiceLink.Proofs.Client.Pushing
import ServiceLink.Proofs.Client.Subscribing
import ServiceLink.Proofs.Link.AllOrNothing
import ServiceLink.Proofs.Link.Correlation
import ServiceLink.Proofs.Client.Listening
import ServiceLink.Proofs.Client.Course
import ServiceLink.Proofs.Calls.Timer
import ServiceLink.Proofs.Calls.Cycling
import ServiceLink.Proofs.Link.Expiry
import ServiceLink.Proofs.Link.Watching
import ServiceLink.Proofs.Client.Working
import ServiceLink.Proofs.Client.Inquiring
import ServiceLink.Proofs.Client.Discovering
import ServiceLink.Proofs.Client.Recognizing
import ServiceLink.Proofs.Client.Disconnecting
import ServiceLink.Proofs.Client.Cataloguing
import ServiceLink.Proofs.Link.Packing
import ServiceLink.Proofs.Link.Peering
import ServiceLink.Proofs.Client.Parting
import ServiceLink.Proofs.Link.Replying
import ServiceLink.Proofs.Link.Reporting
import ServiceLink.Proofs.Client.Bootstrapping
import ServiceLink.Proofs.Client.Closing
import ServiceLink.Proofs.Client.Coexisting
import ServiceLink.Proofs.Subscription.Distributing
import ServiceLink.Proofs.Endpoint.Carrying
import ServiceLink.Proofs.Endpoint.Staying
import ServiceLink.Proofs.Rpc.Forgiving
import ServiceLink.Proofs.Service.Normalizing
