import GridGauge.Text
import GridGauge.Text.Blank
import GridGauge.Text.Digit
import GridGauge.Text.Quoted
import GridGauge.Number.Shortest
import GridGauge.Encoding
import GridGauge.Json.Reader
import GridGauge.Timestamp.Reader
import GridGauge.Hub.Document
import GridGauge.Json.Writer
import GridGauge.Url.Join
import GridGauge.Settings.File
import GridGauge.Settings.Value
import GridGauge.Settings.Environment
import GridGauge.Gauge
import GridGauge.Number.Reading
import GridGauge.Yaml.ScalarText
import GridGauge.Yaml
import GridGauge.Logging.Format
import GridGauge.Logging
import GridGauge.Version
import GridGauge.Url
import GridGauge.Hub.Fetch
import GridGauge.Service
import GridGauge.CommandLine
import GridGauge.Main
import GridGauge.Proofs.Schema
import GridGauge.Proofs.Decoding
import GridGauge.Proofs.Documents
import GridGauge.Proofs.Digits
import GridGauge.Proofs.Place
import GridGauge.Proofs.Fetching
import GridGauge.Proofs.Observing
import GridGauge.Proofs.Rounding
import GridGauge.Proofs.Messages
import GridGauge.Proofs.Pages
import GridGauge.Proofs.Timestamps
import GridGauge.Proofs.Writing
import GridGauge.Proofs.Attempts
import GridGauge.Proofs.Keys
import GridGauge.Proofs.Merging
import GridGauge.Proofs.Sections
import GridGauge.Proofs.Layers
import GridGauge.Proofs.Overlap
import GridGauge.Proofs.Exactness
import GridGauge.Proofs.Layouts
import GridGauge.Proofs.Exposition
import GridGauge.Proofs.Placement
import GridGauge.Proofs.Omissions
import GridGauge.Proofs.Legible
import GridGauge.Proofs.Reasons
import GridGauge.Proofs.Collecting
import GridGauge.Proofs.Modes
import GridGauge.Proofs.Ratios
import GridGauge.Proofs.Nearest
import GridGauge.Proofs.Escapes
import GridGauge.Proofs.Numerals
import GridGauge.Proofs.Rereading
import GridGauge.Proofs.Printing
import GridGauge.Proofs.Aggregates
import GridGauge.Proofs.Unseen
import GridGauge.Proofs.DateTimes
import GridGauge.Proofs.Encodings
import GridGauge.Proofs.Utc
import GridGauge.Proofs.Sharing
import GridGauge.Proofs.Overrides
import GridGauge.Proofs.Streams
import GridGauge.Proofs.Faults
import GridGauge.Proofs.Laying
import GridGauge.Proofs.Loading
import GridGauge.Proofs.Reporting
import GridGauge.Proofs.Regrouping
import GridGauge.Proofs.Numbering
import GridGauge.Proofs.Marks
import GridGauge.Proofs.Reloading
import GridGauge.Proofs.Joining
import GridGauge.Proofs.Walking
import GridGauge.Proofs.Looping
import GridGauge.Proofs.Paths
import GridGauge.Proofs.Directories
import GridGauge.Proofs.Opening
import GridGauge.Proofs.SettingUp
