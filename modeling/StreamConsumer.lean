import StreamConsumer.Time.Difference
import StreamConsumer.Time.Text
import StreamConsumer.Text.Form
import StreamConsumer.Start.Position
import StreamConsumer.Start.Decode
import StreamConsumer.Config.Field
import StreamConsumer.Config.Rule
import StreamConsumer.Config.Form
import StreamConsumer.Session.Run
import StreamConsumer.Generator.Start
import StreamConsumer.Generator.Config
import StreamConsumer.Proofs.Start
import StreamConsumer.Proofs.Validation
import StreamConsumer.Proofs.LastWriter
import StreamConsumer.Proofs.Recording
import StreamConsumer.Proofs.Interference
import StreamConsumer.Proofs.Metrics
import StreamConsumer.Proofs.Logging
import StreamConsumer.Proofs.Repair
import StreamConsumer.Proofs.Decoding
import StreamConsumer.Proofs.Facts
import StreamConsumer.Proofs.Equality
import StreamConsumer.Proofs.Generation
import StreamConsumer.Proofs.LeapSecond
import StreamConsumer.Proofs.Fallback
import StreamConsumer.Proofs.Resolution
import StreamConsumer.Proofs.Blame
import StreamConsumer.Proofs.Commuting
import StreamConsumer.Proofs.Description
import StreamConsumer.Proofs.Partition
import StreamConsumer.Proofs.Least
